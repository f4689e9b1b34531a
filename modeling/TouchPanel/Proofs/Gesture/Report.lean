import Mathlib.Data.List.Induction
import TouchPanel.Proofs.Gesture.Grammar

/-!
This module contains what a classifier reports call by call (`Classifier.reportAll`), the first call
with a property that depends on the calls before it (`IsFirst`), and what the machine makes of a
signal from the contact that it follows.
-/

namespace TouchPanel.Gesture

/--
No call has a property, which may depend on the calls before it.
-/
def Never {α : Type} (p : List α → α → Prop) (calls : List α) : Prop :=
  ∀ before call after, calls = before ++ call :: after → ¬ p before call

structure IsFirst {α : Type} (p : List α → α → Prop) (calls before : List α) (call : α)
    (after : List α) : Prop where
  eq_append : calls = before ++ call :: after
  property : p before call
  never : Never p before

theorem never_concat_iff {α : Type} {p : List α → α → Prop} {calls : List α} {call : α} :
    Never p (calls ++ [call]) ↔ Never p calls ∧ ¬ p calls call := by
  constructor
  . intro h
    constructor
    . rintro before other after rfl
      apply h before other (after ++ [call])
      simp
    . exact h calls call [] rfl
  . rintro ⟨hcalls, hcall⟩ before other after happend
    rcases List.eq_nil_or_concat after with rfl | ⟨rest, last, rfl⟩
    . obtain ⟨rfl, hlast⟩ := List.append_inj' happend rfl
      obtain rfl := List.singleton_inj.1 hlast
      exact hcall
    . rw [List.concat_eq_append, ← List.cons_append, ← List.append_assoc] at happend
      obtain ⟨rfl, -⟩ := List.append_inj' happend rfl
      exact hcalls before other rest rfl

theorem never_of_append {α : Type} {p : List α → α → Prop} {calls more : List α}
    (h : Never p (calls ++ more)) : Never p calls := by
  rintro before call after rfl
  apply h before call (after ++ more)
  simp

theorem never_or_exists_isFirst {α : Type} (p : List α → α → Prop) (calls : List α) :
    Never p calls ∨ ∃ before call after, IsFirst p calls before call after := by
  induction calls using List.reverseRecOn with
  | nil =>
    apply Or.inl
    intro before call after happend
    simp at happend
  | append_singleton calls call ih =>
    rcases ih with hnever | ⟨before, first, after, hfirst⟩
    . by_cases hcall : p calls call
      . exact Or.inr ⟨calls, call, [], rfl, hcall, hnever⟩
      . exact Or.inl (never_concat_iff.2 ⟨hnever, hcall⟩)
    . refine Or.inr ⟨before, first, after ++ [call], ?_, hfirst.property, hfirst.never⟩
      rw [hfirst.eq_append]
      simp

namespace Classifier

def reportAll (classifier : Classifier) : List Call → Classifier × List (List Gesture)
  | [] => (classifier, [])
  | call :: calls =>
    let (next, gestures) := classifier.perform call
    let (last, rest) := next.reportAll calls
    (last, gestures :: rest)

theorem reportAll_cons (classifier : Classifier) (call : Call) (calls : List Call) :
    classifier.reportAll (call :: calls) =
      (((classifier.perform call).1.reportAll calls).1,
        (classifier.perform call).2 :: ((classifier.perform call).1.reportAll calls).2) := rfl

theorem reportAll_append (classifier : Classifier) (calls more : List Call) :
    classifier.reportAll (calls ++ more) =
      (((classifier.reportAll calls).1.reportAll more).1,
        (classifier.reportAll calls).2 ++ ((classifier.reportAll calls).1.reportAll more).2) := by
  induction calls generalizing classifier with
  | nil => rfl
  | cons call calls ih =>
    rw [List.cons_append, reportAll_cons, reportAll_cons, ih]
    rfl

theorem perform_eq_step (classifier : Classifier) (call : Call) :
    classifier.perform call =
      (⟨classifier.reference, (classifier.recognizer.step .word (classifier.heard call)).1⟩,
        (classifier.recognizer.step .word (classifier.heard call)).2) := by
  rw [← gestures_perform, ← stage_perform, perform_eq]
  rfl

namespace Call

def time : Call → UInt64
  | handle sample => sample.time
  | tick now => now

def point? (reference : Reference) (id : UInt32) : Call → Option Point
  | handle sample => if sample.id = id then some (reference.point sample) else none
  | tick _ => none

/--
The call sees a contact, or only lets time pass.
-/
def Concerns (id : UInt32) : Call → Prop
  | handle sample => sample.id = id
  | tick _ => True

instance (id : UInt32) (call : Call) : Decidable (call.Concerns id) :=
  match call with
  | handle sample => inferInstanceAs (Decidable (sample.id = id))
  | tick _ => .isTrue trivial

/--
A contact that the call sees moves.
-/
def IsQuiet (id : UInt32) : Call → Prop
  | handle sample => sample.id = id → sample.phase = .move
  | tick _ => True

instance (id : UInt32) (call : Call) : Decidable (call.IsQuiet id) :=
  match call with
  | handle sample => inferInstanceAs (Decidable (sample.id = id → sample.phase = .move))
  | tick _ => .isTrue trivial

end Call

end Classifier

theorem Point.moved_iff (point last : Point) :
    (point.x - last.x ≠ 0 ∨ point.y - last.y ≠ 0) ↔ ¬point = last := by
  cases point
  cases last
  rw [Point.mk.injEq]
  dsimp only
  omega

namespace Recognizer

variable (precision : Precision) (press : Press) (axis : Axis) (point : Point) (now : UInt64)

theorem step_enter_pressed_move :
    (enter (.pressed press)).step precision (.touch .move press.id point now) =
      if (press.observe precision point).isHeld now then
        (enter (.holding (press.observe precision point)),
          [(press.observe precision point).gesture .hold now 0 0])
      else
        match precision.dragAxis? (point.x - press.start.x) (point.y - press.start.y) with
        | some axis =>
          (enter (.dragging axis (press.observe precision point)),
            [(press.observe precision point).gesture (.drag axis) now (point.x - press.start.x)
              (point.y - press.start.y)])
        | none => (enter (.pressed (press.observe precision point)), []) := by
  unfold step enter stepPressed
  simp only [ne_eq, not_true_eq_false, if_false]
  rfl

theorem step_enter_pressed_up :
    (enter (.pressed press)).step precision (.touch .up press.id point now) =
      if (press.observe precision point).isHeld now then
        (⟨.idle, .hold⟩, [(press.observe precision point).gesture .hold now 0 0])
      else if Time.elapsed press.since now < clickTimeout &&
          (press.observe precision point).isResting then
        (⟨.idle, .click⟩, [(press.observe precision point).gesture .click now 0 0])
      else
        (⟨.idle, .potential⟩, []) := by
  unfold step enter stepPressed
  simp only [ne_eq, not_true_eq_false, if_false]
  rfl

theorem step_enter_dragging_move :
    (enter (.dragging axis press)).step precision (.touch .move press.id point now) =
      (enter (.dragging axis (press.observe precision point)),
        if point = press.last then
          []
        else
          [(press.observe precision point).gesture (.drag axis) now (point.x - press.last.x)
            (point.y - press.last.y)]) := by
  have hmoved := Point.moved_iff point press.last
  unfold step enter stepDragging
  simp only [ne_eq, not_true_eq_false, if_false, hmoved, ite_not]
  rfl

theorem step_enter_dragging_up :
    (enter (.dragging axis press)).step precision (.touch .up press.id point now) =
      (⟨.idle, .drag axis⟩,
        [(press.observe precision point).gesture
          (.dragEnd axis (precision.swipe? axis (point.x - press.start.x))) now
          (point.x - press.start.x) (point.y - press.start.y)]) := by
  unfold step enter stepDragging
  simp only [ne_eq, not_true_eq_false, if_false]
  rfl

end Recognizer

end TouchPanel.Gesture
