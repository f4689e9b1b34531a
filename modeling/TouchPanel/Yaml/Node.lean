import TouchPanel.Yaml.Tag

/-!
This module contains the values that YAML text stands for, as far as settings need them: scalars,
and mappings whose keys are scalars. Sequences have no place in settings.
-/

namespace TouchPanel.Yaml

inductive Style where
  | plain
  | quoted
  | literal
  | folded
  deriving DecidableEq, Repr

structure Scalar where
  style : Style
  tag : Option (List UInt8)
  text : String
  deriving DecidableEq, Repr

def Scalar.empty : Scalar := ⟨.plain, none, ""⟩

inductive Node where
  | scalar (scalar : Scalar)
  | mapping (entries : List (Scalar × Node))

namespace Scalar

def isPlain (scalar : Scalar) : Bool := scalar.style == .plain

def standardTag (name : String) : List UInt8 := octetsOf ("tag:yaml.org,2002:" ++ name)

/--
The text counts as a value of a standard type: it is plain, or a literal block with the tag of the
type.
-/
def counts (scalar : Scalar) (type : String) : Bool :=
  scalar.isPlain || (scalar.style == .literal && scalar.tag == some (standardTag type))

def isNull (scalar : Scalar) : Bool :=
  ["null", "Null", "NULL", "~"].contains scalar.text

/--
Whether no value is given: the text is plain, and empty or a word for nothing. `none` refuses a tag
for nothing before something.
-/
def isMissing? (scalar : Scalar) : Option Bool :=
  if !scalar.isPlain then some false
  else if scalar.tag == some (standardTag "null") then
    if scalar.isNull then some true else none
  else some (scalar.tag.isNone && (scalar.isNull || scalar.text.isEmpty))

def bool? (scalar : Scalar) : Option Bool :=
  if !scalar.counts "bool" then none
  else if ["true", "True", "TRUE"].contains scalar.text then some true
  else if ["false", "False", "FALSE"].contains scalar.text then some false
  else none

def digit? (base : Nat) (c : Char) : Option Nat := (hexDigit? c).filter (· < base)

def digits? (base : Nat) (cs : List Char) : Option Nat :=
  if cs.isEmpty then none
  else cs.foldlM (fun n c => (digit? base c).map (base * n + ·)) 0

/--
The natural number that the text writes: in base sixteen, eight or two after a mark, or in base ten
without a leading zero. A plus sign may precede it.
-/
def nat? (scalar : Scalar) : Option Nat :=
  if !scalar.counts "int" then
    none
  else
    let unsigned :=
      match scalar.text.toList with
      | '+' :: rest => rest
      | cs => cs
    match unsigned with
    | '0' :: 'x' :: cs => digits? 16 cs
    | '0' :: 'o' :: cs => digits? 8 cs
    | '0' :: 'b' :: cs => digits? 2 cs
    | '0' :: _ :: _ => none
    | cs => digits? 10 cs

/--
The name in a local tag: what follows its exclamation mark, or the mark if nothing follows.
-/
def localTag? (scalar : Scalar) : Option String :=
  match scalar.tag with
  | some (0x21 :: name) =>
    String.fromUTF8? ⟨(if name.isEmpty then [0x21] else name).toArray⟩
  | _ => none

/--
The choice that the scalar names: by a local tag with nothing after it, or by its text.
-/
def choice? (scalar : Scalar) : Option String :=
  match scalar.localTag? with
  | some name =>
    if scalar.isPlain && (scalar.text.isEmpty || scalar.isNull) then some name else none
  | none => some scalar.text

end Scalar

end TouchPanel.Yaml
