import TouchPanel.Yaml.Plain

/-!
This module contains the reading of block scalars: lines that are taken as they stand, or folded
into paragraphs, up to the first line that is indented less.
-/

namespace TouchPanel.Yaml

inductive Chomping where
  | clip
  | strip
  | keep
  deriving DecidableEq, Repr

def Chomping.ofMark? (c : Char) : Option Chomping :=
  if c == '+' then some .keep else if c == '-' then some .strip else none

structure BlockHeader where
  chomping : Chomping
  indent : Option Nat
  deriving DecidableEq, Repr

/--
The indentation that a digit writes. A block cannot be indented by nothing.
-/
def indentOf? (c : Char) : Option Nat :=
  if c.isDigit && c != '0' then some (c.toNat - '0'.toNat) else none

def BlockHeader.read (text : List Char) : BlockHeader × List Char :=
  match text with
  | [] => (⟨.clip, none⟩, [])
  | c :: cs =>
    match Chomping.ofMark? c, indentOf? c with
    | some chomping, _ =>
      match cs.head?.bind indentOf? with
      | some indent => (⟨chomping, some indent⟩, cs.drop 1)
      | none => (⟨chomping, none⟩, cs)
    | none, some indent =>
      match cs.head?.bind Chomping.ofMark? with
      | some chomping => (⟨chomping, some indent⟩, cs.drop 1)
      | none => (⟨.clip, some indent⟩, cs)
    | none, none => (⟨.clip, none⟩, c :: cs)

structure BlockLines where
  /-- The text up to the last line, the last character first. -/
  text : List Char
  /-- The line breaks after it. -/
  breaks : Breaks
  /-- The last line starts with a blank. -/
  isIndented : Bool

namespace BlockLines

def empty : BlockLines := ⟨[], ⟨none, []⟩, false⟩

/--
Starts a line with a character. A single line feed between two lines that start with no blank
becomes a space if the lines are folded.
-/
def startLine (lines : BlockLines) (folded : Bool) (c : Char) : BlockLines :=
  let gap :=
    if folded && lines.breaks.first == some '\n' && !lines.isIndented && !isBlank c then
      lines.breaks.fold
    else
      lines.breaks.toList
  ⟨c :: (gap ++ lines.text), ⟨none, []⟩, isBlank c⟩

def finish (lines : BlockLines) : Chomping → List Char
  | .strip => lines.text.reverse
  | .clip => (lines.breaks.first.toList ++ lines.text).reverse
  | .keep => (lines.breaks.toList ++ lines.text).reverse

end BlockLines

/--
The indentation of a block is still to be found: it is that of the deepest line up to the first one
that is not blank.
-/
structure Margin where
  least : Nat
  deepest : Nat
  deriving DecidableEq, Repr

/--
Reads the lines of a block. `margin` is their indentation, or what is known of it; `inLine` says
whether the indentation of the current line has been passed.
-/
def blockLines? (folded : Bool) (margin : Margin ⊕ Nat) (inLine : Bool) (lines : BlockLines)
    (place : Place) : List Char → Option (BlockLines × Cursor)
  | [] => some (lines, ⟨[], place⟩)
  | c :: cs =>
    if inLine then
      if isBreak c then
        let lines := { lines with breaks := ⟨some c, []⟩ }
        blockLines? folded margin false lines (place.next c) cs
      else
        let lines := { lines with text := c :: lines.text }
        blockLines? folded margin true lines (place.next c) cs
    else
      let isMargin :=
        match margin with
        | .inl _ => true
        | .inr indent => place.column < indent
      if isMargin && c == ' ' then
        blockLines? folded margin false lines (place.next c) cs
      else if isMargin && c == '\t' then
        none
      else
        let margin :=
          match margin with
          | .inl found => .inl { found with deepest := max found.deepest place.column }
          | .inr indent => .inr indent
        if isBreak c then
          let lines := { lines with breaks := lines.breaks.push c }
          blockLines? folded margin false lines (place.next c) cs
        else
          let indent :=
            match margin with
            | .inl found => max found.least found.deepest
            | .inr indent => indent
          if place.column = indent then
            blockLines? folded (.inr indent) true (lines.startLine folded c) (place.next c) cs
          else
            some (lines, ⟨c :: cs, place⟩)

/--
Reads a block after its sign. `outer` is the indentation of what the block belongs to.
-/
def block? (folded : Bool) (outer : Option Nat) (cursor : Cursor) : Option Scanned := do
  let (header, rest) := BlockHeader.read cursor.rest
  let start ← (cursor.advanceTo rest).finishLine?
  let margin : Margin ⊕ Nat :=
    match header.indent with
    | some count => .inr (outer.getD 0 + count)
    | none => .inl ⟨max 1 ((outer.map (· + 1)).getD 0), 0⟩
  let (lines, next) ← blockLines? folded margin false .empty start.place start.rest
  return ⟨lines.finish header.chomping, next, true⟩

end TouchPanel.Yaml
