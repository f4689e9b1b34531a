import TouchPanel.Proofs.Gesture.Grammar

/-!
This module contains the proof that secondary contacts do not interfere
(`Classifier.glimpses_remaining`). A classifier overlooks the samples of all contacts but the one
that it follows, and, while it follows none, everything but a contact that goes down
(`Classifier.perform_of_overlooks`). Calls that are overlooked can be left out, any of them.
-/

namespace TouchPanel.Gesture

namespace Recognizer

variable (precision : Precision) {recognizer : Recognizer} {phase : Phase} {id : UInt32}

theorem step_of_idle (hidle : recognizer.stage = .idle) (hphase : phase ≠ .down) (point : Point)
    (now : UInt64) : recognizer.step precision (.touch phase id point now) = (recognizer, []) := by
  unfold step
  rw [hidle]
  cases phase with
  | down => contradiction
  | move => rfl
  | up => rfl

theorem step_of_id_ne {press : Press} (hpress : recognizer.stage.press? = some press)
    (hid : id ≠ press.id) (point : Point) (now : UInt64) :
    recognizer.step precision (.touch phase id point now) = (recognizer, []) := by
  unfold step
  cases hstage : recognizer.stage <;> rw [hstage] at hpress
  case idle => contradiction
  all_goals obtain rfl := Option.some.inj hpress
  case pressed =>
    dsimp only
    unfold stepPressed
    exact if_pos hid
  case holding =>
    dsimp only
    unfold stepHolding
    exact if_pos hid
  case dragging =>
    dsimp only
    unfold stepDragging
    exact if_pos hid

end Recognizer

/--
The items that are left when those at some indices are deleted.
-/
def remaining {α : Type} (isDeleted : Nat → Bool) : List α → List α
  | [] => []
  | item :: items =>
    let rest := remaining (fun index => isDeleted (index + 1)) items
    if isDeleted 0 then rest else item :: rest

theorem remaining_cons {α : Type} (isDeleted : Nat → Bool) (item : α) (items : List α) :
    remaining isDeleted (item :: items) =
      if isDeleted 0 then remaining (fun index => isDeleted (index + 1)) items
      else item :: remaining (fun index => isDeleted (index + 1)) items := rfl

/--
What shows of a call: the gestures that it reports, and what the classifier says of itself after it.
-/
structure Glimpse where
  gestures : List Gesture
  phase : Class
  outcome : Class
  primary? : Option UInt32
  deriving DecidableEq, Repr

namespace Classifier

/--
The call is a sample of another contact than the one that is followed, or, while none is, a sample
that moves or lifts a contact.
-/
def Overlooks (classifier : Classifier) : Call → Prop
  | .handle sample =>
    (classifier.phase ≠ .idle ∧ classifier.primary? ≠ some sample.id) ∨
      (classifier.phase = .idle ∧ (sample.phase = .move ∨ sample.phase = .up))
  | .tick _ => False

instance (classifier : Classifier) (call : Call) : Decidable (classifier.Overlooks call) :=
  match call with
  | .handle sample =>
    inferInstanceAs (Decidable ((classifier.phase ≠ .idle ∧ classifier.primary? ≠ some sample.id) ∨
      (classifier.phase = .idle ∧ (sample.phase = .move ∨ sample.phase = .up))))
  | .tick _ => inferInstanceAs (Decidable False)

def glimpse (classifier : Classifier) (call : Call) : Glimpse :=
  let (next, gestures) := classifier.perform call
  { gestures
    phase := next.phase
    outcome := next.recognizer.outcome
    primary? := next.primary? }

def glimpses (classifier : Classifier) : List Call → List Glimpse
  | [] => []
  | call :: calls => classifier.glimpse call :: (classifier.perform call).1.glimpses calls

theorem glimpses_cons (classifier : Classifier) (call : Call) (calls : List Call) :
    classifier.glimpses (call :: calls) =
      classifier.glimpse call :: (classifier.perform call).1.glimpses calls := rfl

theorem performAll_cons (classifier : Classifier) (call : Call) (calls : List Call) :
    classifier.performAll (call :: calls) =
      (((classifier.perform call).1.performAll calls).1,
        (classifier.perform call).2 ++ ((classifier.perform call).1.performAll calls).2) := rfl

theorem stage_of_phase_eq_idle {classifier : Classifier} (h : classifier.phase = .idle) :
    classifier.recognizer.stage = .idle := by
  unfold phase at h
  cases hstage : classifier.recognizer.stage <;> rw [hstage] at h
  all_goals contradiction

theorem perform_of_overlooks {classifier : Classifier} {call : Call}
    (h : classifier.Overlooks call) : classifier.perform call = (classifier, []) := by
  cases call with
  | tick => contradiction
  | handle sample =>
    have hstep : classifier.recognizer.step .word
        (.touch sample.phase sample.id (classifier.reference.point sample) sample.time) =
          (classifier.recognizer, []) := by
      rcases h with ⟨hphase, hprimary⟩ | ⟨hidle, hphase⟩
      . rw [ne_eq, phase_eq_idle_iff] at hphase
        obtain ⟨id, hid⟩ := Option.ne_none_iff_exists'.1 hphase
        obtain ⟨press, hpress, rfl⟩ := Option.map_eq_some_iff.1 hid
        apply Recognizer.step_of_id_ne .word hpress
        rintro heq
        rw [heq] at hprimary
        exact hprimary hid
      . apply Recognizer.step_of_idle .word (stage_of_phase_eq_idle hidle)
        rcases hphase with hmove | hup
        . simp [hmove]
        . simp [hup]
    unfold perform handle feed signal
    dsimp only
    rw [hstep]
    rfl

/--
Whatever a classifier is called for, any of the samples of contacts that it does not follow can be
left out, and so can moves and lifts while it follows none. The other calls report the same gestures,
and the classifier is in the same phase after each of them, takes the stroke for the same and follows
the same contact. Nothing is lost with the calls that are left out, and nothing of them stays.
-/
theorem glimpses_remaining {classifier : Classifier} {calls : List Call}
    {isDeleted : Nat → Bool}
    (h : ∀ index (hindex : index < calls.length), isDeleted index = true →
      (classifier.performAll (calls.take index)).1.Overlooks calls[index]) :
    classifier.glimpses (remaining isDeleted calls) =
        remaining isDeleted (classifier.glimpses calls) ∧
      classifier.performAll (remaining isDeleted calls) = classifier.performAll calls := by
  induction calls generalizing classifier isDeleted with
  | nil => exact ⟨rfl, rfl⟩
  | cons call calls ih =>
    obtain ⟨hglimpses, hlast⟩ :=
      @ih (classifier.perform call).1 (fun index => isDeleted (index + 1))
        fun index hindex hdeleted => h (index + 1) (Nat.succ_lt_succ hindex) hdeleted
    rw [remaining_cons, glimpses_cons, remaining_cons, performAll_cons, ← hglimpses, ← hlast]
    cases hfirst : isDeleted 0 with
    | true =>
      -- The first call leaves the classifier as it is, so the others begin where it began.
      have hperform : classifier.perform call = (classifier, []) :=
        perform_of_overlooks (h 0 (Nat.zero_lt_succ _) hfirst)
      rw [if_pos rfl, if_pos rfl, hperform]
      exact ⟨rfl, rfl⟩
    | false => exact ⟨rfl, rfl⟩

/--
A second contact goes down and moves while the first one clicks, and goes on while none is followed.
-/
theorem glimpses_remaining_pinched :
    let first : Sample := ⟨.down, 1, 0, 0, 1, 0, .touch⟩
    let second : Sample := ⟨.down, 2, 1, 1, 1, 10, .touch⟩
    let calls : List Call :=
      [.handle first, .handle second, .tick 20, .handle { second with phase := .move },
        .handle (first.lifted 80), .handle (second.lifted 90)]
    let isDeleted : Nat → Bool := fun index => [1, 3, 5].contains index
    (∀ index (hindex : index < calls.length), isDeleted index = true →
      ((new .standard).performAll (calls.take index)).1.Overlooks calls[index]) ∧
    remaining isDeleted calls = [.handle first, .tick 20, .handle (first.lifted 80)] ∧
    (new .standard).glimpses (remaining isDeleted calls) =
      remaining isDeleted ((new .standard).glimpses calls) := by
  intro first second calls isDeleted
  have hoverlooks : ∀ index (hindex : index < calls.length), isDeleted index = true →
      ((new .standard).performAll (calls.take index)).1.Overlooks calls[index] := by decide +kernel
  exact ⟨hoverlooks, rfl, (glimpses_remaining hoverlooks).1⟩

end Classifier

end TouchPanel.Gesture
