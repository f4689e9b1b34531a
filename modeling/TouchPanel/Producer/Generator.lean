import TouchPanel.Inbox.Basic
import TouchPanel.Pattern.Differ
import TouchPanel.Settings.Basic

/-!
This module contains the worker that generates strokes: it goes through the frames of a pattern,
cycle after cycle, and before each frame forwards the events of a script. Without a pattern, or
after it, it forwards the script alone.

As for the worker that reads a device, `Generator.step` is a single step and `Generator.finish`
lets a worker that was asked to end do so.
-/

namespace TouchPanel

abbrev Script := List Event

def Script.capacity : Nat := 64

def Script.push (script : Script) (event : Event) : Script × Bool :=
  if script.length < capacity then (script ++ [event], true) else (script, false)

/--
The form in which an event of a script is delivered: at the present time, and as a synthetic one.
-/
def Event.scripted (now : UInt64) : Event → Event
  | .pointer sample => .pointer { sample with time := now, origin := .mock }
  | other => other.withTime now

namespace Generator

structure Course where
  start : UInt64
  cycle : Pattern.Cycle
  differ : Pattern.Differ
  deriving DecidableEq, Repr

structure Due where
  frame : Pattern.Frame
  course : Course
  deriving DecidableEq, Repr

inductive Stage where
  /-- Sleeps for a time since another one, then forwards the script. -/
  | sleeping (since span : UInt64) (due : Option Due)
  | forwarding (due : Option Due)
  | delivering (time : UInt64) (changes : List (Phase × Spot)) (course : Course)
  | ended
  deriving DecidableEq, Repr

end Generator

structure Generator where
  settings : SyntheticSettings
  /-- Nobody has asked the worker to end. -/
  isWanted : Bool
  stage : Generator.Stage
  /-- What the inbox has had no room for yet. -/
  waiting : List Event
  deriving DecidableEq, Repr

namespace Generator

def hasEnded (generator : Generator) : Bool := generator.stage == .ended

def isRunning (generator : Generator) : Bool := generator.isWanted && !generator.hasEnded

def idle (generator : Generator) (now : UInt64) : Generator :=
  { generator with stage := .sleeping now generator.settings.interval none }

def follow? (generator : Generator) (course : Course) : Option Generator :=
  course.cycle.next?.map fun (frame, cycle) =>
    { generator with
      stage := .sleeping course.start frame.time (some ⟨frame, { course with cycle }⟩) }

def begin (generator : Generator) (now : UInt64) : Generator :=
  let settings := generator.settings
  let begun? := settings.pattern.bind fun pattern =>
    generator.follow? ⟨now, .new pattern settings.interval settings.duration, .new⟩
  begun?.getD (generator.idle now)

def new (settings : SyntheticSettings) (now : UInt64) : Generator :=
  begin { settings, isWanted := true, stage := .ended, waiting := [] } now

/--
Goes on after a delivery. An inbox that takes nothing ends the worker.
-/
def settle (generator : Generator) : Delivery → Generator
  | .done => { generator with waiting := [] }
  | .waiting events => { generator with waiting := events }
  | .closed => { generator with stage := .ended, waiting := [] }

/--
What follows a frame: the next one, a new cycle if the pattern repeats, or the script alone.
-/
def proceed (generator : Generator) (now : UInt64) (course : Course) : Generator :=
  (generator.follow? course).getD
    (if generator.settings.repeats then generator.begin now else generator.idle now)

def step (now : UInt64) (generator : Generator) (script : Script) (inbox : Inbox) :
    Generator × Script × Inbox :=
  if !generator.waiting.isEmpty then
    let (inbox, delivery) := inbox.enqueue generator.waiting
    (generator.settle delivery, script, inbox)
  else
    match generator.stage with
    | .ended => (generator, script, inbox)
    | .sleeping since span due =>
      if !generator.isWanted then
        ({ generator with stage := .ended }, script, inbox)
      else if span ≤ Time.elapsed since now then
        ({ generator with stage := .forwarding due }, script, inbox)
      else
        (generator, script, inbox)
    | .forwarding due =>
      match script, due with
      | event :: script, _ =>
        let (inbox, delivery) := inbox.push (event.scripted now)
        (generator.settle delivery, script, inbox)
      | [], none => (generator.idle now, [], inbox)
      | [], some due =>
        let (differ, changes) := due.course.differ.apply due.frame
        ({ generator with stage := .delivering now changes { due.course with differ } }, [], inbox)
    | .delivering time ((phase, spot) :: changes) course =>
      let sample := Sample.clamped phase spot.id spot.x spot.y time .mock
      let (inbox, delivery) := inbox.push (.pointer sample)
      ({ generator with stage := .delivering time changes course }.settle delivery, script, inbox)
    | .delivering _ [] course => (generator.proceed now course, script, inbox)

/--
What is still to be done before a worker that is not wanted ends. Every step that does not wait
makes it smaller.
-/
def remaining (generator : Generator) (script : Script) : Nat :=
  let ending :=
    match generator.stage with
    | .ended => 0
    | .sleeping .. => 1
    | .delivering _ changes _ => 2 + 3 * changes.length
    | .forwarding _ => 3 + 3 * Pattern.changeLimit + 3 * script.length
  ending + generator.waiting.length

/--
Takes the steps of a worker that is not wanted, up to its end, or up to where it waits for room.
-/
def finish (now : UInt64) (generator : Generator) (script : Script) (inbox : Inbox) :
    Script × Inbox :=
  let (next, script', inbox) := generator.step now script inbox
  if _ : next.remaining script' < generator.remaining script then
    finish now next script' inbox
  else
    (script', inbox)
termination_by generator.remaining script
decreasing_by assumption

end Generator

end TouchPanel
