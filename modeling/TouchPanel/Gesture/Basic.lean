import TouchPanel.Text.Blank

/-!
This module contains the gestures that a stroke of the primary contact can be, their labels, and the
thresholds that tell them apart.
-/

namespace TouchPanel.Gesture

structure Point where
  x : Int
  y : Int
  deriving DecidableEq, Repr, Inhabited

inductive Axis where
  | horizontal
  | vertical
  deriving DecidableEq, Repr

inductive Direction where
  | left
  | right
  deriving DecidableEq, Repr

inductive Kind where
  | click
  | hold
  | drag (axis : Axis)
  | dragEnd (axis : Axis) (swipe : Option Direction)
  deriving DecidableEq, Repr

namespace Kind

def label : Kind → String
  | click => "click"
  | hold => "hold"
  | drag .horizontal => "drag_horizontal"
  | drag .vertical => "drag_vertical"
  | dragEnd .vertical _ => "drag_end_vertical"
  | dragEnd .horizontal none => "drag_end_horizontal"
  | dragEnd .horizontal (some .left) => "page_swipe_left"
  | dragEnd .horizontal (some .right) => "page_swipe_right"

/--
The kinds that labels name: a vertical drag never turns the page.
-/
def labelled : List Kind :=
  [click, hold, drag .horizontal, drag .vertical, dragEnd .vertical none,
    dragEnd .horizontal none, dragEnd .horizontal (some .left),
    dragEnd .horizontal (some .right)]

def ofLabel? (word : String) : Option Kind :=
  labelled.find? fun kind => kind.label == Text.fold word

theorem ofLabel?_label {kind : Kind} (h : kind ∈ labelled) : ofLabel? kind.label = some kind := by
  revert kind
  decide

end Kind

end Gesture

/--
A gesture of one contact. For a step of a drag, `dx` and `dy` are the way since the step before; for
the end of a drag, the way since its start. Times are in milliseconds.
-/
structure Gesture where
  kind : Gesture.Kind
  id : UInt32
  point : Gesture.Point
  start : Gesture.Point
  dx : Int
  dy : Int
  time : UInt64
  duration : UInt64
  deriving DecidableEq, Repr

namespace Gesture

/--
A press shorter than this is a click.
-/
def clickTimeout : UInt64 := 300

def holdThreshold : UInt64 := 500

/--
How many pixels a contact at rest may stray, and how many a drag has to go.
-/
def dragThreshold : Int := 10

def swipeThreshold : Int := 100

/--
How many hundredths of the way across an axis the way along it has to exceed.
-/
def dominance : Int := 150

end Gesture

end TouchPanel
