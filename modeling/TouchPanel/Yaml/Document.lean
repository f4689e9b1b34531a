import TouchPanel.Yaml.Token

/-!
This module contains the reading of YAML text: one document of block and flow mappings and scalars,
with comments, tags, names and marks between documents. `Yaml.read?` gives the value of the
document, if there is one; text that is no such document is refused.
-/

namespace TouchPanel.Yaml

/--
A value as it is written. A reference stands for the value that its number leads to once the whole
document has been read.
-/
inductive Tree where
  | scalar (scalar : Scalar)
  | reference (target : Nat)
  | mapping (entries : List (Tree × Tree))

def Tree.empty : Tree := .scalar .empty

/--
The named values of a document. A name stands for a number, and a number for a value: a scalar, or
something else. Every name has one entry; of the entries of a number, the latest counts.
-/
structure Names where
  targets : List (String × Nat)
  values : List (Nat × Option Scalar)

namespace Names

def empty : Names := ⟨[], []⟩

/--
Gives a name to a value. Its number is that of the names so far, so that a name that is given again
may share its number with the next new one.
-/
def define (names : Names) (name : String) (value : Option Scalar) : Names :=
  let target := names.targets.length
  let others := names.targets.filter fun (other, _) => other != name
  ⟨(name, target) :: others, (target, value) :: names.values⟩

def find? (names : Names) (name : String) : Option Nat := names.targets.lookup name

def scalar? (names : Names) (target : Nat) : Option Scalar := (names.values.lookup target).join

end Names

namespace Tree

def scalar? (names : Names) : Tree → Option Scalar
  | .scalar s => some s
  | .reference target => names.scalar? target
  | .mapping _ => none

mutual

/--
The value without references. References to mappings are refused.
-/
def resolve? (names : Names) : Tree → Option Node
  | .scalar s => some (.scalar s)
  | .reference target => (names.scalar? target).map Node.scalar
  | .mapping entries => do return .mapping (← resolveEntries? names entries)

def resolveEntries? (names : Names) : List (Tree × Tree) → Option (List (Scalar × Node))
  | [] => some []
  | (key, value) :: entries => do
    let key ← scalar? names key
    let value ← resolve? names value
    return (key, value) :: (← resolveEntries? names entries)

end

end Tree

structure ReaderState where
  tokens : List Token
  names : Names
  handles : List TagHandle

abbrev Reader := StateT ReaderState Option

namespace Reader

def peek : Reader (Option Token) := do return (← get).tokens.head?

def skip : Reader Unit := modify fun s => { s with tokens := s.tokens.drop 1 }

def accept (token : Token) : Reader Bool := do
  let isNext := (← peek) == some token
  if isNext then skip
  return isNext

structure Properties where
  anchor : Option String
  tag : Option (List UInt8)

def Properties.isEmpty (found : Properties) : Bool := found.anchor.isNone && found.tag.isNone

def anchor : Reader (Option String) := do
  match ← peek with
  | some (.anchor name) =>
    skip
    return some name
  | _ => return none

def tag : Reader (Option (List UInt8)) := do
  match ← peek with
  | some (.tag tag) =>
    skip
    return some (← tag.resolve? (← get).handles)
  | _ => return none

def properties : Reader Properties := do
  match ← anchor with
  | some name => return ⟨some name, ← tag⟩
  | none =>
    let tag ← tag
    return ⟨← anchor, tag⟩

def define (found : Properties) (value : Option Scalar) : Reader Unit :=
  match found.anchor with
  | some name => modify fun s => { s with names := s.names.define name value }
  | none => pure ()

def complete (found : Properties) (style : Style) (text : String) : Reader Tree := do
  let scalar : Scalar := ⟨style, found.tag, text⟩
  define found (some scalar)
  return .scalar scalar

def endsEntry (inFlow : Bool) : Option Token → Bool
  | some .key => !inFlow
  | some .value => true
  | some .mappingEnd => !inFlow
  | some .flowEntry => inFlow
  | some .flowEnd => inFlow
  | _ => false

def part (inFlow : Bool) (read : Reader Tree) : Reader Tree := do
  if endsEntry inFlow (← peek) then return .empty else read

def entry (inFlow : Bool) (read : Reader Tree) : Reader (Tree × Tree) := do
  let key ← part inFlow read
  let value ← if ← accept .value then part inFlow read else pure .empty
  return (key, value)

mutual

def node (inFlow : Bool) : Nat → Reader Tree
  | 0 => failure
  | budget + 1 => do
    match ← peek with
    | some (.reference name) =>
      skip
      return .reference (← (← get).names.find? name)
    | _ =>
      let found ← properties
      match ← peek with
      | some (.scalar style text) =>
        skip
        complete found style text
      | some .flowStart =>
        skip
        define found none
        return .mapping (← flowEntries true budget)
      | some .mappingStart =>
        if inFlow then failure
        skip
        define found none
        return .mapping (← blockEntries budget)
      | _ =>
        if found.isEmpty then failure
        complete found .plain ""
termination_by structural budget => budget

def blockEntries : Nat → Reader (List (Tree × Tree))
  | 0 => failure
  | budget + 1 => do
    if ← accept .mappingEnd then return []
    if !(← accept .key) then failure
    let first ← entry false (node false budget)
    return first :: (← blockEntries budget)
termination_by structural budget => budget

/--
Reads the entries of a mapping in flow, up to its end. Commas stand between them, and one may stand
after the last.
-/
def flowEntries (isFirst : Bool) : Nat → Reader (List (Tree × Tree))
  | 0 => failure
  | budget + 1 => do
    if ← accept .flowEnd then return []
    if !isFirst then
      if !(← accept .flowEntry) then failure
      if ← accept .flowEnd then return []
    let first ←
      if ← accept .key then entry true (node true budget)
      else do pure (← node true budget, .empty)
    return first :: (← flowEntries false budget)
termination_by structural budget => budget

end

def content (budget : Nat) : Reader Tree := do
  match ← peek with
  | none => return .empty
  | some .documentStart => return .empty
  | some .documentEnd => return .empty
  | some (.directive _) => return .empty
  | some _ => node false budget

end Reader

def splitDirectives : List Token → List Directive × List Token
  | .directive directive :: tokens =>
    let (directives, rest) := splitDirectives tokens
    (directive :: directives, rest)
  | tokens => ([], tokens)

/--
What the handles of tags stand for under directives. None of these may be given twice.
-/
def handles? (directives : List Directive) : Option (List TagHandle) :=
  let handles := directives.filterMap fun
    | .version => none
    | .handle handle => some handle
  let names := handles.map TagHandle.handle
  if names.eraseDups.length < names.length || 1 < directives.count .version then none
  else some (handles ++ TagHandle.standard)

def document? (tokens : List Token) : Option Node := do
  let (directives, rest) := splitDirectives tokens
  let handles ← handles? directives
  let isMarked := rest.head? == some .documentStart
  if !directives.isEmpty && !isMarked then none
  let budget := 2 * tokens.length + 2
  let read := if isMarked then Reader.content budget else Reader.node false budget
  let (tree, state) ← read ⟨if isMarked then rest.drop 1 else rest, .empty, handles⟩
  if state.tokens.all (· == .documentEnd) then
    tree.resolve? state.names
  else
    none

def isAllowed (c : Char) : Bool :=
  let n := c.toNat
  n == 0x09 || n == 0x0A || n == 0x0D || (0x20 ≤ n && n ≤ 0x7E) || n == 0x85 ||
    (0xA0 ≤ n && n ≤ 0xFFFD) || 0x10000 ≤ n

/--
The text with a line feed in place of a carriage return, with or without a line feed after it, and
of a next-line character.
-/
def normalizeBreaks : List Char → List Char
  | '\r' :: '\n' :: cs => '\n' :: normalizeBreaks cs
  | c :: cs => (if c == '\r' || c == '\u0085' then '\n' else c) :: normalizeBreaks cs
  | [] => []

/--
The value of a text, if it has one. The outer `none` refuses the text.
-/
def read? (text : String) : Option (Option Node) := do
  let cs := text.toList
  if !cs.all isAllowed then none
  let tokens ← tokens? (normalizeBreaks cs)
  if tokens.isEmpty then return none else return some (← document? tokens)

end TouchPanel.Yaml
