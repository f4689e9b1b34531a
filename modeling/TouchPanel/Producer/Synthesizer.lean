import TouchPanel.Producer.Generator
import TouchPanel.Producer.Status

/-!
This module contains the producer of synthetic strokes, which a worker generates from a pattern and
a script.
-/

namespace TouchPanel

structure Synthesizer where
  settings : Option SyntheticSettings
  script : Script
  worker : Option Generator
  status : Status
  deriving DecidableEq, Repr

namespace Synthesizer

def new : Synthesizer := { settings := none, script := [], worker := none, status := .idle }

def isRunning (synthesizer : Synthesizer) : Bool :=
  synthesizer.worker.any Generator.isRunning

def prepare (synthesizer : Synthesizer) (settings : Settings) : Except Failure Synthesizer :=
  if settings.synthetic.interval = 0 ∨ settings.synthetic.duration = 0 then
    .error (.settings .emptyTimes)
  else
    .ok { synthesizer with settings := some settings.synthetic, status := .prepared }

def start (synthesizer : Synthesizer) (now : UInt64) : Except Failure Synthesizer :=
  if synthesizer.isRunning then
    .error .alreadyRunning
  else
    match synthesizer.settings with
    | none => .error .notPrepared
    | some settings =>
      .ok { synthesizer with worker := some (.new settings now), status := .running }

def work (synthesizer : Synthesizer) (now : UInt64) (inbox : Inbox) : Synthesizer × Inbox :=
  match synthesizer.worker with
  | none => (synthesizer, inbox)
  | some worker =>
    let (worker, script, inbox) := worker.step now synthesizer.script inbox
    ({ synthesizer with worker := some worker, script }, inbox)

def stop (synthesizer : Synthesizer) (now : UInt64) (inbox : Inbox) : Synthesizer × Inbox :=
  match synthesizer.worker with
  | none => (synthesizer, inbox)
  | some worker =>
    let (script, inbox) :=
      { worker with isWanted := false }.finish now synthesizer.script inbox
    ({ synthesizer with
        script
        worker := none
        status := (synthesizer.status.transition .running .stopped).1 },
      inbox)

def offer : Offer :=
  { kind := .synthetic, uses := .touch ||| .multiTouch, contactLimit := 2, device := none }

def cleanup (synthesizer : Synthesizer) (now : UInt64) (inbox : Inbox) : Synthesizer × Inbox :=
  let (synthesizer, inbox) := synthesizer.stop now inbox
  ({ synthesizer with script := [], status := .idle }, inbox)

end Synthesizer

end TouchPanel
