import TouchPanel.Gesture.Classifier
import TouchPanel.Pattern.Basic
import TouchPanel.Producer.Kind

/-!
This module contains the commands of the program, and the reading of the arguments that name them.

An option stands at most once, with its value after it or behind an equals sign. After two dashes
everything is an operand.
-/

namespace TouchPanel

inductive ArgumentFault where
  | help
  | noCommand
  | unknownCommand (name : String)
  | unknownOption (name : String)
  | repeatedOption (name : String)
  | missingValue (name : String)
  | unexpectedValue (name : String)
  | invalidValue (name value : String)
  | missingOperand
  | excessOperand (operand : String)
  deriving DecidableEq, Repr

def ArgumentFault.message : ArgumentFault → String
  | .help => "help was asked for"
  | .noCommand => "a command is missing"
  | .unknownCommand name => s!"there is no command '{name}'"
  | .unknownOption name => s!"there is no option '{name}'"
  | .repeatedOption name => s!"the option '{name}' stands more than once"
  | .missingValue name => s!"the option '{name}' needs a value"
  | .unexpectedValue name => s!"the option '{name}' takes no value"
  | .invalidValue name value => s!"'{value}' is no value for '{name}'"
  | .missingOperand => "an operand is missing"
  | .excessOperand operand => s!"the operand '{operand}' is one too many"

namespace Command

/--
An option: its name, and which values it takes. One without a value is a switch.
-/
structure Switch where
  name : String
  value : Option (String → Bool)

structure Given where
  values : List (String × String)
  operands : List String
  deriving DecidableEq, Repr

namespace Given

def empty : Given := ⟨[], []⟩

def value? (given : Given) (name : String) : Option String := given.values.lookup name

def has (given : Given) (name : String) : Bool := (given.value? name).isSome

def add (given : Given) (option : Switch) (value : String) : Except ArgumentFault Given :=
  if given.has option.name then
    .error (.repeatedOption option.name)
  else if option.value.any fun accepts => !accepts value then
    .error (.invalidValue option.name value)
  else
    .ok { given with values := (option.name, value) :: given.values }

/--
Adds an operand, of which there are `count` at most. Operands are paths, which are not empty.
-/
def addOperand (given : Given) (count : Nat) (operand : String) : Except ArgumentFault Given :=
  if count ≤ given.operands.length then
    .error (.excessOperand operand)
  else if operand.isEmpty then
    .error (.invalidValue "operand" operand)
  else
    .ok { given with operands := given.operands ++ [operand] }

end Given

def splitOption (argument : String) : String × Option String :=
  let cs := argument.toList
  let name := cs.takeWhile (· != '=')
  let rest := cs.drop name.length
  (String.ofList name, if rest.isEmpty then none else some (String.ofList (rest.drop 1)))

def isOption (argument : String) : Bool := argument.startsWith "-" && argument != "-"

/--
The argument asks for help. After the letter for it, others say nothing.
-/
def asksHelp (argument : String) : Bool := argument == "--help" || argument.startsWith "-h"

def collect (options : List Switch) (count : Nat) (given : Given) :
    List String → Except ArgumentFault Given
  | [] => .ok given
  | argument :: rest =>
    if argument = "--" then
      rest.foldlM (fun given operand => given.addOperand count operand) given
    else if !isOption argument then
      (given.addOperand count argument).bind fun given => collect options count given rest
    else
      let (name, value?) := splitOption argument
      if asksHelp argument then
        .error .help
      else
        match options.find? fun option => "--" ++ option.name == name with
        | none => .error (.unknownOption name)
        | some option =>
          match option.value.isSome, value? with
          | false, some _ => .error (.unexpectedValue name)
          | false, none =>
            (given.add option "").bind fun given => collect options count given rest
          | true, some value =>
            (given.add option value).bind fun given => collect options count given rest
          | true, none =>
            match rest with
            | [] => .error (.missingValue name)
            | value :: rest =>
              if isOption value then
                .error (.missingValue name)
              else
                (given.add option value).bind fun given => collect options count given rest

def readInt? (text : String) : Option Int :=
  let (isNegative, digits) :=
    match text.toList with
    | '-' :: cs => (true, cs)
    | '+' :: cs => (false, cs)
    | cs => (false, cs)
  if digits.isEmpty || !digits.all Char.isDigit then none
  else
    let n : Int := (Text.readDigits UInt64.size 0 digits).toOption.getD UInt64.size
    let n := if isNegative then -n else n
    if Int64.minValue.toInt ≤ n ∧ n ≤ Int64.maxValue.toInt then some n else none

def readWord32? (text : String) : Option UInt32 :=
  ((readInt? text).filter fun n =>
    0 ≤ n ∧ n < (UInt32.size : Int)).map fun n => UInt32.ofNat n.toNat

def readInt32? (text : String) : Option Int32 :=
  ((readInt? text).filter fun n =>
    Int32.minValue.toInt ≤ n ∧ n ≤ Int32.maxValue.toInt).map Int32.ofInt

def readWord64? (text : String) : Option UInt64 :=
  (Text.readNat (UInt64.size - 1) text.toList).toOption.map UInt64.ofNat

def pathOption (name : String) : Switch := ⟨name, some fun value => !value.isEmpty⟩

def readOption (name : String) (read? : String → Option α) : Switch :=
  ⟨name, some fun value => (read? value).isSome⟩

def switch (name : String) : Switch := ⟨name, none⟩

def replaySwitches : List Switch :=
  [pathOption "expect", readOption "width" readWord32?, readOption "height" readWord32?]

def Given.reference (given : Given) : Reference :=
  let side (name : String) (standard : UInt32) : UInt32 :=
    ((given.value? name).bind readWord32?).getD standard
  ⟨side "width" Reference.standard.width, side "height" Reference.standard.height⟩

end Command

structure RunOptions where
  settings : Option String
  producer : Option ProducerKind
  device : Option String
  pattern : Option Pattern
  duration : UInt64
  drivesMouse : Bool
  trace : Option String
  deriving DecidableEq, Repr

structure ReplayOptions where
  expected : Option String
  reference : Reference
  deriving DecidableEq, Repr

structure DumpOptions where
  device : Option String
  xMax : Int32
  yMax : Int32
  slotCount : UInt64
  isCompact : Bool
  deriving DecidableEq, Repr

inductive Command where
  | scan (root : String)
  | probe (path : String)
  | run (options : RunOptions)
  | replay (path : String) (options : ReplayOptions)
  | replayDump (path : String) (dump : DumpOptions) (options : ReplayOptions)
  deriving DecidableEq, Repr

namespace Command

def patternName? (word : String) : Option Pattern := (Pattern.ofName word).toOption

def producerName? (word : String) : Option ProducerKind := (ProducerKind.ofName word).toOption

/--
The options of the commands, and how many operands each takes.
-/
def grammar : List (String × List Switch × Nat) :=
  [("scan", [pathOption "root"], 0),
    ("probe", [], 1),
    ("run",
      [pathOption "config", readOption "source" producerName?, pathOption "device",
        readOption "pattern" patternName?, readOption "duration-ms" readWord64?,
        switch "mouse-emulation", pathOption "trace"], 0),
    ("replay", replaySwitches, 1),
    ("replay-raw",
      [pathOption "device", readOption "x-max" readInt32?, readOption "y-max" readInt32?,
        readOption "slots" readWord64?, switch "compact"] ++ replaySwitches, 1)]

def ofGiven (name : String) (given : Given) : Except ArgumentFault Command :=
  let replayOptions : ReplayOptions :=
    { expected := given.value? "expect", reference := given.reference }
  match name, given.operands with
  | "scan", _ => .ok (scan ((given.value? "root").getD "/dev/input"))
  | "run", _ =>
    .ok (run
      { settings := given.value? "config"
        producer := (given.value? "source").bind producerName?
        device := given.value? "device"
        pattern := (given.value? "pattern").bind patternName?
        duration := ((given.value? "duration-ms").bind readWord64?).getD 5000
        drivesMouse := given.has "mouse-emulation"
        trace := given.value? "trace" })
  | "probe", path :: _ => .ok (probe path)
  | "replay", path :: _ => .ok (replay path replayOptions)
  | "replay-raw", path :: _ =>
    let axis (name : String) : Int32 := ((given.value? name).bind readInt32?).getD 4095
    .ok (replayDump path
      { device := given.value? "device"
        xMax := axis "x-max"
        yMax := axis "y-max"
        slotCount := ((given.value? "slots").bind readWord64?).getD 10
        isCompact := given.has "compact" }
      replayOptions)
  | _, _ => .error .missingOperand

/--
Help can be asked for a command by its name. The command for help is one of them.
-/
def checkHelp : List String → Except ArgumentFault Unit
  | [] => .ok ()
  | name :: rest =>
    if name = "help" ∨ (grammar.lookup name).isSome then
      match rest with
      | [] => .ok ()
      | other :: _ => .error (.unknownCommand other)
    else
      .error (.unknownCommand name)

def ofArguments : List String → Except ArgumentFault Command
  | [] => .error .noCommand
  | name :: arguments =>
    if asksHelp name then
      .error .help
    else if name = "help" then do
      checkHelp arguments
      .error .help
    else
      match grammar.lookup name with
      | none => .error (if isOption name then .unknownOption name else .unknownCommand name)
      | some (options, count) => do
        ofGiven name (← collect options count .empty arguments)

end Command

end TouchPanel
