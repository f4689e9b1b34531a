/-!
This module contains positions in YAML text, the passing over of blanks and comments, and the marks
between documents.
-/

namespace TouchPanel.Yaml

def isBreak (c : Char) : Bool := c == '\n' || c == '\u2028' || c == '\u2029'

def isBlank (c : Char) : Bool := c == ' ' || c == '\t'

def endsWord : List Char → Bool
  | [] => true
  | c :: _ => isBlank c || isBreak c

structure Place where
  line : Nat
  column : Nat
  deriving DecidableEq, Repr

namespace Place

def start : Place := ⟨0, 0⟩

def next (place : Place) (c : Char) : Place :=
  if isBreak c then ⟨place.line + 1, 0⟩ else ⟨place.line, place.column + 1⟩

end Place

structure Cursor where
  rest : List Char
  place : Place
  deriving DecidableEq, Repr

namespace Cursor

def isEnd (cursor : Cursor) : Bool := cursor.rest.isEmpty

def column (cursor : Cursor) : Nat := cursor.place.column

def advance (cursor : Cursor) (count : Nat) : Cursor :=
  ⟨cursor.rest.drop count, (cursor.rest.take count).foldl Place.next cursor.place⟩

def advanceTo (cursor : Cursor) (rest : List Char) : Cursor :=
  cursor.advance (cursor.rest.length - rest.length)

def skipWhile (cursor : Cursor) (keep : Char → Bool) : Cursor :=
  cursor.advance (cursor.rest.takeWhile keep).length

/--
Three equal characters stand at the start of a line, and nothing else in their word.
-/
def isMark (cursor : Cursor) (c : Char) : Bool :=
  cursor.column == 0 && cursor.rest.take 3 == [c, c, c] && endsWord (cursor.rest.drop 3)

def isBoundary (cursor : Cursor) : Bool := cursor.isMark '-' || cursor.isMark '.'

/--
The position after blanks, comments and line breaks, and whether there was a line break. A byte
order mark at the start of a line is passed over as well. Tabs count as blanks in flow, and
elsewhere only up to the first line break, if `tabs` holds.
-/
def skip (cursor : Cursor) (inFlow tabs : Bool) : Cursor × Bool :=
  go tabs false false cursor.place cursor.rest
where
  go (tabs inComment crossed : Bool) (place : Place) : List Char → Cursor × Bool
    | [] => (⟨[], place⟩, crossed)
    | c :: cs =>
      if isBreak c then go inFlow false true (place.next c) cs
      else if inComment || c == ' ' || (tabs && c == '\t') then
        go tabs inComment crossed (place.next c) cs
      else if c == '\ufeff' && place.column == 0 then go tabs false crossed (place.next c) cs
      else if c == '#' then go tabs true crossed (place.next c) cs
      else (⟨c :: cs, place⟩, crossed)

/--
The position after the end of the line. Only blanks and a comment may stand before it.
-/
def finishLine? (cursor : Cursor) : Option Cursor :=
  let cursor := cursor.skipWhile isBlank
  let cursor := if cursor.rest.head? == some '#' then cursor.skipWhile (!isBreak ·) else cursor
  match cursor.rest with
  | [] => some cursor
  | c :: _ => if isBreak c then some (cursor.advance 1) else none

end Cursor

end TouchPanel.Yaml
