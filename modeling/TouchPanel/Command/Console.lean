import TouchPanel.Failure
import TouchPanel.Files.Basic
import TouchPanel.Log.Basic

/-!
This module contains what commands do to the world: they write to the two outputs, to files and to
the log, and they fail with a report of the causes.
-/

namespace TouchPanel

/--
Why a command failed: what it could not do, and the causes, each of the one before.
-/
structure Report where
  message : String
  causes : List String
  deriving DecidableEq, Repr

namespace Report

def ofFailure (failure : Failure) : Report := ⟨failure.message, failure.cause?.toList⟩

def within (report : Report) (message : String) : Report :=
  ⟨message, report.message :: report.causes⟩

def indent (blanks text : String) : String := ("\n" ++ blanks).intercalate (text.splitOn "\n")

def describeCauses : List String → String
  | [] => ""
  | [cause] => "\n\nCaused by:\n    " ++ indent "    " cause
  | causes =>
    "\n\nCaused by:" ++ String.join (causes.zipIdx.map fun (cause, index) =>
      s!"\n    {index}: " ++ indent "       " cause)

def describe (report : Report) : String :=
  s!"Error: {report.message}{describeCauses report.causes}\n"

end Report

structure Console where
  out : String
  err : String
  files : Files
  filter : LogFilter
  logPath : Option String
  /-- The time of day, in milliseconds. -/
  clock : UInt64

namespace Console

abbrev Action := ExceptT Report (StateM Console)

def print (text : String) : Action Unit :=
  modify fun console => { console with out := console.out ++ text }

def printError (text : String) : Action Unit :=
  modify fun console => { console with err := console.err ++ text }

def log (entry : LogEntry) : Action Unit := do
  let console ← get
  if console.filter.keeps entry.level then
    if entry.level.isQuiet then print entry.line else printError entry.line
    match console.logPath with
    | none => pure ()
    | some path =>
      let bytes := (entry.json console.clock).toUTF8.toList
      modify fun console =>
        { console with files := (console.files.append path bytes).toOption.getD console.files }

def orFail : Except Failure α → Action α
  | .ok a => pure a
  | .error failure => throw (.ofFailure failure)

def orReport (message : String) : Except SystemFault α → Action α
  | .ok a => pure a
  | .error fault => throw ⟨message, [fault.message]⟩

def openFile (path : String) : Action Files.Entry := do
  orReport s!"failed to open {path}" ((← get).files.find path)

def contents (entry : Files.Entry) : Action (List UInt8) :=
  orFail (entry.read.mapError .system)

def writeFile (path text : String) : Action Unit := do
  let files ← orReport s!"failed to create {path}" ((← get).files.create path)
  modify fun console => { console with files }
  let files ← orFail ((files.append path text.toUTF8.toList).mapError .system)
  modify fun console => { console with files }

end Console

end TouchPanel
