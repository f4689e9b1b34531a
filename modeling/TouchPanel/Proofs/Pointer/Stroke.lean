import Mathlib.Data.List.Induction
import TouchPanel.Pointer.Stroke

/-!
This module contains what is known of strokes from their last phase: a contact is down exactly if
its last phase is a down or a move (`Stroke.isOpen_iff_of_run`).
-/

namespace TouchPanel.Stroke

def IsOpen (phases : List Phase) : Prop :=
  phases.getLast? = some .down ∨ phases.getLast? = some .move

instance (phases : List Phase) : Decidable (IsOpen phases) :=
  inferInstanceAs (Decidable (_ ∨ _))

theorem run_replicate_move (count : Nat) :
    run true (List.replicate count .move) = some true := by
  induction count with
  | zero => rfl
  | succ count ih => exact ih

theorem follows_of_run {phases : List Phase} {isDown : Bool} (h : run false phases = some isDown) :
    Follows phases := by
  unfold Follows
  rw [h]
  rfl

theorem isOpen_iff_of_run {phases : List Phase} {isDown : Bool}
    (h : run false phases = some isDown) : IsOpen phases ↔ isDown = true := by
  cases phases using List.reverseRecOn with
  | nil =>
    rw [run_nil] at h
    obtain rfl := Option.some.inj h
    simp [IsOpen]
  | append_singleton phases phase =>
    rw [run_append] at h
    obtain ⟨before, -, hphase⟩ := Option.bind_eq_some_iff.1 h
    rw [run_cons] at hphase
    obtain ⟨after, hafter, hrest⟩ := Option.bind_eq_some_iff.1 hphase
    rw [run_nil] at hrest
    obtain rfl := Option.some.inj hrest
    unfold IsOpen
    rw [List.getLast?_concat]
    cases before <;> cases phase <;> simp_all [next]

theorem follows_of_append {phases more : List Phase} (h : Follows (phases ++ more)) :
    Follows phases := by
  obtain ⟨isDown, hrun⟩ := Option.isSome_iff_exists.1 h
  rw [run_append] at hrun
  obtain ⟨before, hbefore, -⟩ := Option.bind_eq_some_iff.1 hrun
  exact follows_of_run hbefore

theorem closed_iff_not_isOpen {phases : List Phase} (h : Follows phases) :
    Closed phases ↔ ¬ IsOpen phases := by
  obtain ⟨isDown, hrun⟩ := Option.isSome_iff_exists.1 h
  rw [isOpen_iff_of_run hrun]
  unfold Closed
  rw [hrun]
  cases isDown <;> simp

end TouchPanel.Stroke
