import Mathlib.Data.Int.Lemmas
import TouchPanel.Gesture.Measure

/-!
This module contains what the comparisons of lengths decide when lengths are kept within words: they
decide what the exact lengths would (`Precision.squaredDistance_word_lt_iff`,
`Precision.dragAxis?_word_eq_some_iff`, `Precision.swipe?_word`), except for drags that go very far
across their axis.
-/

namespace TouchPanel.Gesture

namespace Point

def IsNear (start point : Point) : Prop :=
  (point.x - start.x) ^ 2 + (point.y - start.y) ^ 2 < 10 ^ 2

def along (start point : Point) : Axis → Int
  | .horizontal => point.x - start.x
  | .vertical => point.y - start.y

def across (start point : Point) : Axis → Int
  | .horizontal => point.y - start.y
  | .vertical => point.x - start.x

/--
The longest way across an axis, one and a half hundred times which is still a word.
-/
def widest : Nat := 14316557

/--
The way to a point starts a drag along an axis: it goes more than ten pixels along the axis, more
than one and a half times as far as across it, and not too far across it to be compared.
-/
structure Leads (start point : Point) (axis : Axis) : Prop where
  far : 10 < (start.along point axis).natAbs
  ahead : 3 * (start.across point axis).natAbs < 2 * (start.along point axis).natAbs
  narrow : (start.across point axis).natAbs ≤ widest

instance (start point : Point) : Decidable (start.IsNear point) :=
  inferInstanceAs (Decidable (_ < _))

theorem leads_iff (start point : Point) (axis : Axis) :
    start.Leads point axis ↔
      10 < (start.along point axis).natAbs ∧
        3 * (start.across point axis).natAbs < 2 * (start.along point axis).natAbs ∧
        (start.across point axis).natAbs ≤ widest :=
  ⟨fun h => ⟨h.far, h.ahead, h.narrow⟩, fun h => ⟨h.1, h.2.1, h.2.2⟩⟩

instance (start point : Point) (axis : Axis) : Decidable (start.Leads point axis) :=
  decidable_of_iff _ (leads_iff start point axis).symm

theorem axis_of_leads {start point : Point} {axis other : Axis} (h : start.Leads point axis)
    (hother : start.Leads point other) : axis = other := by
  have hahead := h.ahead
  have hbehind := hother.ahead
  cases axis <;> cases other <;> simp only [along, across] at hahead hbehind <;>
    first | rfl | omega

theorem not_isNear_of_leads {start point : Point} {axis : Axis} (h : start.Leads point axis) :
    ¬ start.IsNear point := by
  have hfar : (10 : Int) ^ 2 ≤ start.along point axis ^ 2 :=
    Int.natAbs_le_iff_sq_le.1 (Nat.le_of_lt h.far)
  have hx := sq_nonneg (point.x - start.x)
  have hy := sq_nonneg (point.y - start.y)
  unfold IsNear
  cases axis <;> simp only [along] at hfar <;> omega

end Point

def swipe? (axis : Axis) (dx : Int) : Option Direction :=
  match axis with
  | .horizontal => if 100 < dx then some .right else if dx < -100 then some .left else none
  | .vertical => none

namespace Precision

theorem squaredDistance_word_lt_iff (start point : Point) :
    word.squaredDistance point start < dragThreshold * dragThreshold ↔ start.IsNear point := by
  unfold squaredDistance Point.IsNear
  dsimp only
  rw [sq, sq]
  have hx := mul_self_nonneg (point.x - start.x)
  have hy := mul_self_nonneg (point.y - start.y)
  generalize (point.x - start.x) * (point.x - start.x) = x at hx ⊢
  generalize (point.y - start.y) * (point.y - start.y) = y at hy ⊢
  unfold keep dragThreshold
  dsimp only
  omega

theorem exceeds_and_dominates_word (along across : Int) :
    (word.exceeds along dragThreshold && word.dominates along across) = true ↔
      10 < along.natAbs ∧ 3 * across.natAbs < 2 * along.natAbs ∧ across.natAbs ≤ Point.widest := by
  unfold exceeds dominates size keep dragThreshold dominance Point.widest
  dsimp only
  rw [Bool.and_eq_true, decide_eq_true_iff, decide_eq_true_iff]
  omega

theorem dragAxis?_word_eq_some_iff (start point : Point) (axis : Axis) :
    word.dragAxis? (point.x - start.x) (point.y - start.y) = some axis ↔
      start.Leads point axis := by
  have hhorizontal := exceeds_and_dominates_word (point.x - start.x) (point.y - start.y)
  have hvertical := exceeds_and_dominates_word (point.y - start.y) (point.x - start.x)
  have hboth := @Point.axis_of_leads start point .horizontal .vertical
  simp only [Point.leads_iff, Point.along, Point.across] at hboth ⊢
  unfold dragAxis?
  cases axis with
  | horizontal =>
    dsimp only
    rw [← hhorizontal]
    split
    . next h => simp [h]
    . next h => split <;> simp [h]
  | vertical =>
    dsimp only
    rw [← hvertical]
    split
    . next h =>
      -- A way that leads along the first axis cannot lead along the second one.
      rw [← hhorizontal, ← hvertical] at hboth
      simpa using hboth h
    . split <;> simp_all

theorem swipe?_word (axis : Axis) (dx : Int) : word.swipe? axis dx = Gesture.swipe? axis dx := by
  cases axis with
  | horizontal =>
    unfold swipe? Gesture.swipe? exceeds size keep swipeThreshold
    simp only [Bool.and_eq_true, decide_eq_true_iff, true_and]
    split
    . split
      . rw [if_neg (by omega), if_pos (by omega)]
      . rw [if_pos (by omega)]
    . rw [if_neg (by omega), if_neg (by omega)]
  | vertical => rfl

end Precision

end TouchPanel.Gesture
