import TouchPanel.Yaml.Cursor

/-!
This module contains what stands between the words of a scalar. A single line feed counts as a
space; further line breaks, and line breaks of the other kinds, count as themselves.
-/

namespace TouchPanel.Yaml

/--
The line breaks between two lines: the first one, unless it does not count, and the others, the last
one first.
-/
structure Breaks where
  first : Option Char
  others : List Char
  deriving DecidableEq, Repr

namespace Breaks

def push (breaks : Breaks) (c : Char) : Breaks := { breaks with others := c :: breaks.others }

def toList (breaks : Breaks) : List Char := breaks.others ++ breaks.first.toList

def fold (breaks : Breaks) : List Char :=
  if breaks.first == some '\n' then
    if breaks.others.isEmpty then [' '] else breaks.others
  else
    breaks.toList

end Breaks

inductive Gap where
  | none
  | blanks (reversed : List Char)
  | breaks (breaks : Breaks)
  deriving DecidableEq, Repr

namespace Gap

def joined : Gap := .breaks ⟨Option.none, []⟩

def isBreaks : Gap → Bool
  | breaks _ => true
  | _ => false

/--
A line break more. Blanks before it do not count.
-/
def addBreak (c : Char) : Gap → Gap
  | breaks found => breaks (found.push c)
  | _ => breaks ⟨some c, []⟩

/--
A blank more. Blanks at the start of a line do not count.
-/
def addBlank (c : Char) : Gap → Gap
  | none => blanks [c]
  | blanks reversed => blanks (c :: reversed)
  | gap => gap

def fold : Gap → List Char
  | none => []
  | blanks reversed => reversed
  | breaks found => found.fold

end Gap

end TouchPanel.Yaml
