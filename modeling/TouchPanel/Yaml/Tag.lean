import TouchPanel.Yaml.Quoted

/-!
This module contains tags, which name the type of a value, the directives before a document, which
say what the handles of tags stand for, and the names that values are given.
-/

namespace TouchPanel.Yaml

def isNameChar (c : Char) : Bool := c.isAlphanum || c == '-' || c == '_'

def isTagChar (c : Char) : Bool := isNameChar c || ";/?:@&=+$.!~*\x27()".contains c

def endsName (c : Char) : Bool := ['?', ':', ',', ']', '}', '%', '@', '\x60'].contains c

def name? (cursor : Cursor) : Option (String × Cursor) :=
  let name := cursor.rest.takeWhile isNameChar
  let next := cursor.advance name.length
  if !name.isEmpty && (endsWord next.rest || next.rest.head?.any endsName) then
    some (String.ofList name, next)
  else
    none

def trailingOctets? (octet : Nat) : Option Nat :=
  if octet < 0x80 then some 0
  else if octet < 0xC0 then none
  else if octet < 0xE0 then some 1
  else if octet < 0xF0 then some 2
  else if octet < 0xF8 then some 3
  else none

/--
Reads the bytes of a tag, some of which may be written as a percent sign and two hexadecimal digits,
and gives the text after them. Some characters stand for themselves only where `marks` holds.
-/
def octets? (marks : Bool) (text : List Char) : Option (List UInt8 × List Char) :=
  go 0 text
where
  go (missing : Nat) : List Char → Option (List UInt8 × List Char)
    | '%' :: a :: b :: cs => do
      let octet := 16 * (← hexDigit? a) + (← hexDigit? b)
      let missing ←
        if missing = 0 then trailingOctets? octet
        else if 0x80 ≤ octet && octet < 0xC0 then some (missing - 1)
        else none
      let (octets, rest) ← go missing cs
      return (UInt8.ofNat octet :: octets, rest)
    | c :: cs =>
      if missing ≠ 0 || c == '%' then
        none
      else if isTagChar c || (marks && [',', '[', ']'].contains c) then do
        let (octets, rest) ← go 0 cs
        return (UInt8.ofNat c.toNat :: octets, rest)
      else
        some ([], c :: cs)
    | [] => if missing = 0 then some ([], []) else none

def untilZero (octets : List UInt8) : List UInt8 := octets.takeWhile (· != 0)

def octetsOf (text : String) : List UInt8 := text.toUTF8.toList

/--
A tag as it is written: a handle, and what follows it. Without a handle the rest is the whole tag.
-/
structure TagName where
  handle : String
  suffix : List UInt8
  deriving DecidableEq, Repr

structure TagHandle where
  handle : String
  start : List UInt8
  deriving DecidableEq, Repr

def TagHandle.standard : List TagHandle := [⟨"!", [0x21]⟩, ⟨"!!", octetsOf "tag:yaml.org,2002:"⟩]

/--
The whole tag, if its handle stands for something. The first one of equal handles counts.
-/
def TagName.resolve? (tag : TagName) (handles : List TagHandle) : Option (List UInt8) :=
  if tag.handle.isEmpty then
    some tag.suffix
  else
    (handles.find? (·.handle == tag.handle)).map fun found => untilZero found.start ++ tag.suffix

/--
The handle that the text starts with: a name between exclamation marks, or two of these.
-/
def handle? (text : List Char) : Option String :=
  match text with
  | '!' :: rest =>
    let name := rest.takeWhile isNameChar
    if (rest.drop name.length).head? == some '!' then
      some (String.ofList ('!' :: (name ++ ['!'])))
    else
      none
  | _ => none

def tagName? (text : List Char) : Option (TagName × List Char) :=
  match text with
  | '!' :: '<' :: cs => do
    let (octets, rest) ← octets? true cs
    if octets.isEmpty || rest.head? != some '>' then none
    else some (⟨"", untilZero octets⟩, rest.drop 1)
  | _ =>
    match handle? text with
    | some handle => do
      let (octets, rest) ← octets? false (text.drop handle.length)
      if octets.isEmpty then none else some (⟨handle, untilZero octets⟩, rest)
    | none => do
      let (octets, rest) ← octets? false (text.drop 1)
      let suffix := untilZero octets
      some (if suffix.isEmpty then ⟨"", [0x21]⟩ else ⟨"!", suffix⟩, rest)

/--
Reads a tag. A blank has to follow it, or a comma in flow.
-/
def tag? (inFlow : Bool) (cursor : Cursor) : Option (TagName × Cursor) := do
  let (tag, rest) ← tagName? cursor.rest
  if endsWord rest || (inFlow && rest.head? == some ',') then
    return (tag, cursor.advanceTo rest)
  else
    none

inductive Directive where
  | version
  | handle (handle : TagHandle)
  deriving DecidableEq, Repr

def versionPart? (text : List Char) : Option (Nat × List Char) :=
  let digits := text.takeWhile Char.isDigit
  if digits.isEmpty || 9 < digits.length then none
  else
    let value := digits.foldl (fun n c => 10 * n + (c.toNat - '0'.toNat)) 0
    some (value, text.drop digits.length)

def version? (text : List Char) : Option (List Char) := do
  let (major, rest) ← versionPart? text
  if rest.head? != some '.' then none
  let (minor, rest) ← versionPart? (rest.drop 1)
  if major = 1 ∧ (minor = 1 ∨ minor = 2) then some rest else none

def tagHandle? (text : List Char) : Option (TagHandle × List Char) := do
  let handle ← (handle? text).orElse fun _ => if text.head? == some '!' then some "!" else none
  let rest := text.drop handle.length
  if !(rest.head?.any isBlank) then none
  let (octets, rest) ← octets? true (rest.dropWhile isBlank)
  if octets.isEmpty || !endsWord rest then none
  return (⟨handle, octets⟩, rest)

def directive? (cursor : Cursor) : Option (Directive × Cursor) := do
  let text := cursor.rest.drop 1
  let name := text.takeWhile isNameChar
  let rest := text.drop name.length
  if !endsWord rest then none
  let value := rest.dropWhile isBlank
  if name == "YAML".toList then
    let rest ← version? value
    return (.version, ← (cursor.advanceTo rest).finishLine?)
  else if name == "TAG".toList then
    let (handle, rest) ← tagHandle? value
    return (.handle handle, ← (cursor.advanceTo rest).finishLine?)
  else
    none

end TouchPanel.Yaml
