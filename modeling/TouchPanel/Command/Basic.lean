import TouchPanel.Command.Arguments
import TouchPanel.Command.Console
import TouchPanel.Command.Watch
import TouchPanel.Device.Description
import TouchPanel.Settings.Reader
import TouchPanel.Trace.Replay

/-!
This module contains the program: what each command does, and how the program begins and ends.
-/

namespace TouchPanel

namespace Files

/--
Opens devices. None of the files is one.
-/
def opener (files : Files) : Device.Opener := fun path =>
  match files.find path with
  | .error fault => .error fault
  | .ok _ => .error .notDevice

end Files

namespace Command

open Console (Action print printError log orFail orReport openFile contents writeFile)

def runScan (root : String) : Action Unit := do
  let opener := (← get).files.opener
  print (Device.Discovery.describe (Device.Discovery.all root opener))
  for reason in Device.Discovery.skips root opener do
    log ⟨.debug, "panel_input::device::scan", reason⟩
  let hit ← orFail (Device.Discovery.first root opener)
  log ⟨.info, "panel_input::device::scan",
    s!"input: scan selected {hit.path} ({hit.capabilities.name})"⟩
  print s!"selected: {hit.path}\n"

def runProbe (path : String) : Action Unit := do
  print (← orFail (Device.describeAt (← get).files.opener path))

def runSettings (options : RunOptions) : Action Settings := do
  let settings ←
    match options.settings with
    | none => pure Settings.standard
    | some path =>
      match Settings.load path ((← get).files.read path) with
      | .ok settings => pure settings
      | .error fault =>
        throw ((Report.ofFailure (.settings fault)).within s!"failed to load {path}")
  let settings :=
    { settings with
      producer := options.producer.getD settings.producer
      devicePath := options.device <|> settings.devicePath
      synthetic :=
        { settings.synthetic with pattern := options.pattern <|> settings.synthetic.pattern }
      drivesMouse := options.drivesMouse || settings.drivesMouse }
  if settings.producer = .host then
    throw ⟨"the native source needs a host toolkit; use raw-device or synthetic", []⟩
  return settings

def startEntry (settings : Settings) : LogEntry :=
  let pattern := (settings.synthetic.pattern.map Pattern.label).getD "none"
  ⟨.info, "panel_input::source::synthetic",
    s!"input: synthetic generator started (pattern={pattern})"⟩

def beginSession (settings : Settings) : Action Session := do
  let opener := (← get).files.opener
  if settings.producer = .panel ∧ settings.devicePath = none ∧ settings.searchesDevice then
    for reason in Device.Discovery.skips settings.deviceRoot opener do
      log ⟨.debug, "panel_input::device::scan", reason⟩
  match Session.begin settings (.new settings.producer none opener) with
  | .error failure => throw ((Report.ofFailure failure).within "failed to create input handler")
  | .ok session =>
    log ⟨.info, "panel_input::handler",
      s!"input: handler ready (source={settings.producer.label})"⟩
    match session.start with
    | (session, .ok ()) =>
      log ⟨.info, "panel_input::handler", "input: handler started"⟩
      log (startEntry settings)
      return session
    | (_, .error failure) =>
      log ⟨.warn, "panel_input::handler",
        s!"input: {settings.producer.label} source failed to start: {failure.message}"⟩
      throw (.ofFailure failure)

def runRun (options : RunOptions) : Action Unit := do
  let settings ← runSettings options
  let session ← beginSession settings
  let watch := (Watch.new session).watchFor options.duration.toNat
  for gesture in watch.gestures do
    print gesture.describe
  let down := watch.session.inbox.guard.samples.length
  let watch := watch.close
  log ⟨.info, "panel_input::source::synthetic", "input: synthetic generator exited"⟩
  if down ≠ 0 then
    log ⟨.info, "panel_input::handler", s!"input: released {down} open contact(s)"⟩
  log ⟨.info, "panel_input::handler", "input: handler stopped"⟩
  print watch.session.describe
  match options.trace with
  | none => pure ()
  | some path =>
    writeFile path watch.journal.write
    log ⟨.info, "panel_input", s!"trace written to {path}"⟩

def kindLabels (kinds : List Gesture.Kind) : String :=
  ",".intercalate (kinds.map Gesture.Kind.label)

def reportReplay (gestures : List Gesture) (expected : Option String) : Action Unit := do
  print (Trace.gestureHeader ++ "\n" ++ String.join (gestures.map Trace.gestureLine))
  match expected with
  | none => pure ()
  | some path =>
    let expected ← orFail (Trace.readKindBytes (← contents (← openFile path)))
    let actual := gestures.map Gesture.kind
    if actual ≠ expected then
      printError s!"expected kinds: {kindLabels expected}\n"
      printError s!"actual kinds:   {kindLabels actual}\n"
      throw ⟨"gesture sequence mismatch", []⟩

def runReplay (path : String) (options : ReplayOptions) : Action Unit := do
  let samples ← orFail (Trace.readSampleBytes (← contents (← openFile path)))
  reportReplay (Trace.replay options.reference samples) options.expected

def dumpCapabilities (dump : DumpOptions) : Action Device.Capabilities :=
  match dump.device with
  | none => pure (.recordedPanel dump.xMax dump.yMax dump.slotCount.toNat)
  | some path => do
    let opener := (← get).files.opener
    let device ← orReport s!"failed to open {path}" (opener path)
    orFail (device.survey.capabilities.mapError .notTouch)

def runReplayDump (path : String) (dump : DumpOptions) (options : ReplayOptions) :
    Action Unit := do
  let capabilities ← dumpCapabilities dump
  if capabilities.x.greatest ≤ capabilities.x.least ∨
      capabilities.y.greatest ≤ capabilities.y.least then
    throw ⟨"axis maxima must be positive", []⟩
  let layout := if dump.isCompact then Kernel.Layout.compact else Kernel.Layout.wide
  let bytes ← orReport s!"failed to read {path}" ((← get).files.read path)
  for notice in Trace.noticesOfDump layout capabilities bytes do
    log ⟨.warn, "panel_input::device::contacts", notice⟩
  let samples := Trace.samplesOfDump layout capabilities bytes
  log ⟨.info, "panel_input",
    s!"replay: {samples.length} pointer events from {capabilities.describe}"⟩
  reportReplay (Trace.replay options.reference samples) options.expected

def perform : Command → Action Unit
  | scan root => runScan root
  | probe path => runProbe path
  | run options => runRun options
  | replay path options => runReplay path options
  | replayDump path dump options => runReplayDump path dump options

end Command

structure Environment where
  level : Option String
  logPath : Option String
  deriving DecidableEq, Repr

namespace Environment

def filter? (environment : Environment) : Option LogFilter :=
  match environment.level with
  | none => some ⟨some .info⟩
  | some word => LogFilter.ofName? (Text.strip word)

/--
The files with a file for the log, which is made with its folder if it is not there.
-/
def openLog (environment : Environment) (files : Files) : Except Report Files :=
  match environment.logPath with
  | none => .ok files
  | some path => do
    let files ← (files.makeParent path).mapError fun fault => ⟨fault.message, []⟩
    (files.append path []).mapError fun fault => ⟨s!"failed to open {path}", [fault.message]⟩

end Environment

structure Outcome where
  code : Nat
  out : String
  err : String
  files : Files
  fault : Option ArgumentFault

namespace Outcome

def ofReport (files : Files) (report : Report) : Outcome :=
  { code := 1, out := "", err := report.describe, files, fault := none }

def ofResult (result : Except Report Unit) (console : Console) : Outcome :=
  let (code, err) :=
    match result with
    | .ok () => (0, "")
    | .error report => (1, report.describe)
  { code, out := console.out, err := console.err ++ err, files := console.files, fault := none }

end Outcome

/--
The whole program: the log is opened, then the arguments are read, then their command is performed.
-/
def program (environment : Environment) (arguments : List String) (files : Files) (clock : UInt64) :
    Outcome :=
  match environment.filter? with
  | none =>
    .ofReport files
      ⟨"PANEL_INPUT_LOG must be off|error|warn|info|debug|trace",
        ["attempted to convert a string that doesn't match an existing log level"]⟩
  | some filter =>
    match environment.openLog files with
    | .error report => .ofReport files report
    | .ok files =>
      match Command.ofArguments arguments with
      | .error fault =>
        { code := if fault = .help then 0 else 2, out := "", err := "", files, fault := some fault }
      | .ok command =>
        let console : Console :=
          { out := "", err := "", files, filter, logPath := environment.logPath, clock }
        let (result, console) := (command.perform.run).run console
        .ofResult result console

end TouchPanel
