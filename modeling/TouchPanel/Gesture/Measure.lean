import TouchPanel.Gesture.Basic

/-!
This module contains the comparisons of lengths that decide between gestures. Lengths are kept
either exactly or within signed words of 32 bits, in which what is too large counts as the largest
word.
-/

namespace TouchPanel.Gesture

inductive Precision where
  | exact
  | word
  deriving DecidableEq, Repr

namespace Precision

def keep : Precision → Int → Int
  | exact, n => n
  | word, n => max (-2147483648) (min n 2147483647)

def size (precision : Precision) (n : Int) : Int :=
  precision.keep n.natAbs

def squaredDistance (precision : Precision) (a b : Point) : Int :=
  let dx := a.x - b.x
  let dy := a.y - b.y
  precision.keep (precision.keep (dx * dx) + precision.keep (dy * dy))

def exceeds (precision : Precision) (n threshold : Int) : Bool :=
  threshold < precision.size n

def dominates (precision : Precision) (along across : Int) : Bool :=
  precision.keep (precision.size across * dominance) <
    precision.keep (precision.size along * 100)

def dragAxis? (precision : Precision) (dx dy : Int) : Option Axis :=
  -- No way is far enough ahead along both axes, so the order of the two does not matter.
  if precision.exceeds dx dragThreshold && precision.dominates dx dy then some .horizontal
  else if precision.exceeds dy dragThreshold && precision.dominates dy dx then some .vertical
  else none

def swipe? (precision : Precision) (axis : Axis) (dx : Int) : Option Direction :=
  if axis = .horizontal && precision.exceeds dx swipeThreshold then
    some (if dx < 0 then .left else .right)
  else
    none

end Precision

end TouchPanel.Gesture
