import TouchPanel.Failure
import TouchPanel.Text.Blank

/-!
This module contains the synthetic strokes that can be generated.
-/

namespace TouchPanel

inductive Pattern where
  | tap
  | swipe
  | pinch
  | circle
  deriving DecidableEq, Repr

namespace Pattern

def label : Pattern → String
  | tap => "tap"
  | swipe => "swipe"
  | pinch => "pinch"
  | circle => "circle"

def all : List Pattern := [tap, swipe, pinch, circle]

def ofName (word : String) : Except Failure Pattern :=
  match all.find? fun pattern => pattern.label == Text.fold word with
  | some pattern => .ok pattern
  | none => .error (.settings (.unknownPattern (Text.fold word)))

end Pattern

end TouchPanel
