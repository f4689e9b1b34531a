import Mathlib.Data.List.Forall2
import TouchPanel.Proofs.Gesture.Grammar

/-!
This module contains what ticks do between two samples. A press that is due for a hold becomes one
at the first tick that finds it so, and all other ticks are without effect. Main statement:
`Classifier.performAll_ticks`. Whatever the ticks up to some time are, they come to the same as a
single tick at that time, but that the hold may be earlier.
-/

namespace TouchPanel.Gesture

/--
The same gesture, or a hold that is reported at an earlier time.
-/
def IsEarlier (gesture later : Gesture) : Prop :=
  gesture = later ∨
    later.kind = .hold ∧ gesture.time ≤ later.time ∧ gesture.duration ≤ later.duration ∧
      gesture = { later with time := gesture.time, duration := gesture.duration }

theorem isEarlier_refl (gesture : Gesture) : IsEarlier gesture gesture := Or.inl rfl

namespace Press

/--
A press that begins at the first time has lasted as long as a hold takes at the second one.
-/
def IsDue (since now : UInt64) : Prop := holdThreshold ≤ Time.elapsed since now

instance (since now : UInt64) : Decidable (IsDue since now) :=
  inferInstanceAs (Decidable (holdThreshold ≤ Time.elapsed since now))

variable {press : Press} {now later : UInt64}

theorem isHeld_iff (press : Press) (now : UInt64) :
    press.isHeld now = true ↔ IsDue press.since now ∧ press.isResting = true := by
  unfold isHeld IsDue
  rw [Bool.and_eq_true, decide_eq_true_iff]

theorem elapsed_le_elapsed (since : UInt64) (h : now ≤ later) :
    Time.elapsed since now ≤ Time.elapsed since later := by
  rw [UInt64.le_iff_toNat_le] at h ⊢
  rw [Time.toNat_elapsed, Time.toNat_elapsed]
  omega

theorem isHeld_of_le (hheld : press.isHeld now = true) (h : now ≤ later) :
    press.isHeld later = true := by
  rw [isHeld_iff] at hheld ⊢
  exact ⟨UInt64.le_trans hheld.1 (elapsed_le_elapsed press.since h), hheld.2⟩

theorem isHeld_fresh (id : UInt32) (point : Point) (now : UInt64) :
    (fresh id point now).isHeld now = false := by
  rw [Bool.eq_false_iff]
  intro hheld
  have hdue := ((isHeld_iff _ now).1 hheld).1
  unfold IsDue fresh at hdue
  rw [UInt64.le_iff_toNat_le, Time.toNat_elapsed, Nat.sub_self] at hdue
  contradiction

theorem isEarlier_hold (press : Press) (h : now ≤ later) :
    IsEarlier (press.gesture .hold now 0 0) (press.gesture .hold later 0 0) :=
  Or.inr ⟨rfl, h, elapsed_le_elapsed press.since h, rfl⟩

end Press

theorem Stage.pressed_of_continues {stage : Stage} {gestures : List Gesture} {later : Press}
    (h : stage.Continues gestures (.pressed later)) : ∃ press, stage = .pressed press := by
  cases h with
  | press => exact ⟨_, rfl⟩

namespace Recognizer

variable {precision : Precision} {recognizer : Recognizer} {press later : Press} {phase : Phase}
  {id : UInt32} {point : Point} {now : UInt64}

theorem since_of_stepPressed (hstage : recognizer.stage = .pressed press)
    (hheld : press.isHeld now = false)
    (hlater : (recognizer.stepPressed precision press (.touch phase id point now)).1.stage =
      .pressed later) :
    later.isHeld now = false ∧
      ((phase = .down ∧ later.since = now) ∨ later.since = press.since) := by
  unfold stepPressed at hlater
  dsimp only at hlater
  split at hlater
  . rw [hstage] at hlater
    obtain rfl := Stage.pressed.inj hlater
    exact ⟨hheld, Or.inr rfl⟩
  . cases phase with
    | down =>
      obtain rfl := Stage.pressed.inj hlater
      exact ⟨Press.isHeld_fresh id point now, Or.inl ⟨rfl, rfl⟩⟩
    | move =>
      dsimp only at hlater
      split at hlater
      . contradiction
      . next hmoved =>
        split at hlater
        . contradiction
        . obtain rfl := Stage.pressed.inj hlater
          exact ⟨eq_false_of_ne_true hmoved, Or.inr rfl⟩
    | up =>
      dsimp only at hlater
      split at hlater
      . contradiction
      . split at hlater <;> contradiction

theorem since_of_step
    (hbefore : ∀ press, recognizer.stage = .pressed press → press.isHeld now = false)
    (hlater : (recognizer.step precision (.touch phase id point now)).1.stage = .pressed later) :
    later.isHeld now = false ∧
      ((phase = .down ∧ later.since = now) ∨
        ∃ press, recognizer.stage = .pressed press ∧ later.since = press.since) := by
  cases hstage : recognizer.stage with
  | idle =>
    unfold step at hlater
    rw [hstage] at hlater
    cases phase with
    | down =>
      obtain rfl := Stage.pressed.inj hlater
      exact ⟨Press.isHeld_fresh id point now, Or.inl ⟨rfl, rfl⟩⟩
    | move | up =>
      rw [hstage] at hlater
      contradiction
  | pressed press =>
    unfold step at hlater
    rw [hstage] at hlater
    obtain ⟨hheld, hsince⟩ := since_of_stepPressed hstage (hbefore press hstage) hlater
    exact ⟨hheld, hsince.imp_right fun hsame => ⟨press, rfl, hsame⟩⟩
  | holding press =>
    have hbegun : recognizer.stage.begun? (.touch phase id point now) = none := by
      rw [hstage]
      exact Stage.begun?_holding ..
    have hnext := continues_step precision hbegun
    rw [hstage, hlater] at hnext
    obtain ⟨before, hpressed⟩ := Stage.pressed_of_continues hnext
    contradiction
  | dragging axis press =>
    have hbegun : recognizer.stage.begun? (.touch phase id point now) = none := by
      rw [hstage]
      exact Stage.begun?_dragging ..
    have hnext := continues_step precision hbegun
    rw [hstage, hlater] at hnext
    obtain ⟨before, hpressed⟩ := Stage.pressed_of_continues hnext
    contradiction

end Recognizer

namespace Classifier

variable {classifier : Classifier} {ticks : List UInt64} {now : UInt64}

def IsDue (classifier : Classifier) (now : UInt64) : Prop :=
  ∃ press, classifier.recognizer.stage = .pressed press ∧ press.isHeld now = true

theorem performAll_append (classifier : Classifier) (calls more : List Call) :
    classifier.performAll (calls ++ more) =
      (((classifier.performAll calls).1.performAll more).1,
        (classifier.performAll calls).2 ++
          ((classifier.performAll calls).1.performAll more).2) := by
  induction calls generalizing classifier with
  | nil => rfl
  | cons call calls ih => simp [performAll, ih]

theorem tick_of_not_isDue (h : ¬classifier.IsDue now) : classifier.tick now = (classifier, []) := by
  obtain ⟨reference, recognizer⟩ := classifier
  unfold tick feed Recognizer.step
  dsimp only
  cases hstage : recognizer.stage with
  | idle | holding | dragging => rfl
  | pressed press =>
    have hheld : ¬press.isHeld now = true := fun hheld => h ⟨press, hstage, hheld⟩
    dsimp only
    unfold Recognizer.stepPressed
    dsimp only
    rw [if_neg hheld]
    rfl

theorem tick_of_isHeld {press : Press} (hstage : classifier.recognizer.stage = .pressed press)
    (hheld : press.isHeld now = true) :
    classifier.tick now =
      ({ classifier with recognizer := .enter (.holding press) },
        [press.gesture .hold now 0 0]) := by
  unfold tick feed Recognizer.step
  rw [hstage]
  dsimp only
  unfold Recognizer.stepPressed
  dsimp only
  rw [if_pos hheld]
  rfl

theorem isHeld_of_stage_tick {press : Press}
    (h : (classifier.tick now).1.recognizer.stage = .pressed press) :
    classifier.recognizer.stage = .pressed press ∧ press.isHeld now = false := by
  by_cases hdue : classifier.IsDue now
  . obtain ⟨before, hstage, hheld⟩ := hdue
    rw [tick_of_isHeld hstage hheld] at h
    contradiction
  . rw [tick_of_not_isDue hdue] at h
    refine ⟨h, ?_⟩
    rw [Bool.eq_false_iff]
    intro hheld
    exact hdue ⟨press, h, hheld⟩

theorem performAll_ticks_of_not_isDue (h : ∀ tick ∈ ticks, ¬classifier.IsDue tick) :
    classifier.performAll (ticks.map .tick) = (classifier, []) := by
  induction ticks with
  | nil => rfl
  | cons tick ticks ih =>
    rw [List.forall_mem_cons] at h
    have htick : classifier.perform (.tick tick) = (classifier, []) := tick_of_not_isDue h.1
    rw [List.map_cons]
    unfold performAll
    rw [htick]
    dsimp only
    rw [ih h.2]
    rfl

/--
Ticks up to some time come to the same as a single tick at that time, if one of them finds due what
is due then. A hold is reported at the first tick that finds it due, which may be earlier.
-/
theorem performAll_ticks (hle : ∀ tick ∈ ticks, tick ≤ now)
    (hdue : classifier.IsDue now → ∃ tick ∈ ticks, classifier.IsDue tick) :
    (classifier.performAll (ticks.map .tick)).1 = (classifier.tick now).1 ∧
      List.Forall₂ IsEarlier (classifier.performAll (ticks.map .tick)).2
        (classifier.tick now).2 := by
  induction ticks with
  | nil =>
    have hnone : ¬classifier.IsDue now := by
      intro hnow
      obtain ⟨tick, hmem, -⟩ := hdue hnow
      contradiction
    rw [tick_of_not_isDue hnone]
    exact ⟨rfl, .nil⟩
  | cons tick ticks ih =>
    rw [List.forall_mem_cons] at hle
    have hperform : classifier.perform (.tick tick) = classifier.tick tick := rfl
    rw [List.map_cons]
    unfold performAll
    rw [hperform]
    by_cases hfirst : classifier.IsDue tick
    . -- The press becomes a hold now, and then none is left that could be due.
      obtain ⟨press, hstage, hheld⟩ := hfirst
      rw [tick_of_isHeld hstage hheld,
        tick_of_isHeld hstage (Press.isHeld_of_le hheld hle.1)]
      dsimp only
      rw [performAll_ticks_of_not_isDue (by rintro - - ⟨_, hpressed, -⟩; contradiction)]
      exact ⟨rfl, .cons (Press.isEarlier_hold press hle.1) .nil⟩
    . rw [tick_of_not_isDue hfirst]
      apply ih hle.2
      intro hnow
      obtain ⟨found, hmem, hfound⟩ := hdue hnow
      rcases List.mem_cons.1 hmem with rfl | hmem
      . contradiction
      . exact ⟨found, hmem, hfound⟩

end Classifier

end TouchPanel.Gesture
