import TouchPanel.Yaml.Gap

/-!
This module contains the reading of plain scalars, which have no marks around them.
-/

namespace TouchPanel.Yaml

structure Scanned where
  text : List Char
  cursor : Cursor
  /-- A line break was passed after the scalar. -/
  crossed : Bool

def isFlowMark (c : Char) : Bool := [',', '[', ']', '{', '}'].contains c

def isIndicator (c : Char) : Bool :=
  ['#', '&', '*', '!', '|', '>', '\'', '"', '%', '@', '\x60'].contains c

def startsPlain (inFlow : Bool) : List Char → Bool
  | [] => false
  | '-' :: rest => !endsWord rest
  | '?' :: rest => !inFlow && !endsWord rest
  | ':' :: rest => !inFlow && !endsWord rest
  | c :: _ => !(isFlowMark c || isIndicator c || isBlank c || isBreak c)

/--
Reads a plain scalar, whose further lines start at `indent` at least.
-/
def plain? (inFlow : Bool) (indent : Nat) (cursor : Cursor) : Option Scanned :=
  go [] .none cursor.place cursor.rest
where
  go (text : List Char) (gap : Gap) (place : Place) : List Char → Option Scanned
    | [] => some ⟨text.reverse, ⟨[], place⟩, gap.isBreaks⟩
    | c :: cs =>
      if isBreak c then
        go text (gap.addBreak c) (place.next c) cs
      else if isBlank c then
        if c == '\t' && gap.isBreaks && place.column < indent then none
        else go text (gap.addBlank c) (place.next c) cs
      else
        let isOutside := gap.isBreaks &&
          ((!inFlow && place.column < indent) || (⟨c :: cs, place⟩ : Cursor).isBoundary)
        let isComment := gap != .none && c == '#'
        let isColon := c == ':' && endsWord cs
        if isOutside || isComment || isColon || (inFlow && isFlowMark c) then
          some ⟨text.reverse, ⟨c :: cs, place⟩, gap.isBreaks⟩
        else if inFlow && c == ':' && cs.head?.any (fun d => isFlowMark d || d == '?') then
          none
        else
          go (c :: (gap.fold ++ text)) .none (place.next c) cs

end TouchPanel.Yaml
