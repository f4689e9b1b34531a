import TouchPanel.Proofs.Gesture.Grammar

/-!
This module contains that the labels of a run tell its kinds (`Classifier.isLabelled_performAll`).
A label does not say whether the end of a vertical drag turns a page, but no run has a vertical drag
that does.
-/

namespace TouchPanel.Gesture

namespace Kind

theorem ofLabel?_eq_some_iff {word : String} {kind : Kind} :
    ofLabel? word = some kind ↔ kind ∈ labelled ∧ kind.label = Text.fold word := by
  unfold ofLabel?
  constructor
  . intro h
    have hlabel := List.find?_some h
    exact ⟨List.mem_of_find?_eq_some h, eq_of_beq hlabel⟩
  . rintro ⟨hlabelled, hlabel⟩
    rw [← hlabel]
    clear hlabel
    revert kind
    decide

theorem label_inj {kind other : Kind} (h : kind ∈ labelled) (hother : other ∈ labelled) :
    kind.label = other.label ↔ kind = other := by
  constructor
  . intro hlabel
    have hkind := ofLabel?_label h
    rw [hlabel, ofLabel?_label hother] at hkind
    exact (Option.some.inj hkind).symm
  . rintro rfl
    rfl

/--
The end of a vertical drag is the only kind that is not told from its label.
-/
theorem mem_labelled_iff (kind : Kind) :
    kind ∈ labelled ↔ ∀ swipe, kind ≠ .dragEnd .vertical (some swipe) := by
  unfold labelled
  cases kind with
  | click => simp
  | hold => simp
  | drag axis => cases axis <;> simp
  | dragEnd axis swipe => rcases swipe with _ | _ | _ <;> cases axis <;> simp

theorem map_label_inj {kinds others : List Kind} (h : ∀ kind ∈ kinds, kind ∈ labelled)
    (hothers : ∀ kind ∈ others, kind ∈ labelled) :
    kinds.map label = others.map label ↔ kinds = others := by
  constructor
  . induction kinds generalizing others with
    | nil =>
      intro hlabels
      exact (List.map_eq_nil_iff.1 hlabels.symm).symm
    | cons kind kinds ih =>
      cases others with
      | nil => nofun
      | cons other others =>
        rw [List.forall_mem_cons] at h hothers
        intro hlabels
        obtain ⟨hlabel, hrest⟩ := List.cons.inj hlabels
        rw [(label_inj h.1 hothers.1).1 hlabel, ih h.2 hothers.2 hrest]
  . rintro rfl
    rfl

end Kind

def IsLabelled (gestures : List Gesture) : Prop :=
  ∀ gesture ∈ gestures, gesture.kind ∈ Kind.labelled

theorem isLabelled_singleton {press : Press} {kind : Kind} {gesture : Gesture}
    (h : press.Reports kind gesture) (hkind : kind ∈ Kind.labelled) : IsLabelled [gesture] := by
  unfold IsLabelled
  rw [List.forall_mem_singleton, h.kind]
  exact hkind

theorem Stage.isLabelled_of_continues {stage next : Stage} {gestures : List Gesture}
    (h : stage.Continues gestures next) : IsLabelled gestures := by
  have hnone : IsLabelled [] := List.forall_mem_nil _
  have hdrag : ∀ axis, Kind.drag axis ∈ Kind.labelled := by
    intro axis
    cases axis <;> decide
  cases h with
  | idle => exact hnone
  | press => exact hnone
  | lift => exact hnone
  | holding => exact hnone
  | holdingLift => exact hnone
  | dragging => exact hnone
  | hold _ hgesture => exact isLabelled_singleton hgesture (by decide)
  | liftHold hgesture => exact isLabelled_singleton hgesture (by decide)
  | liftClick hgesture => exact isLabelled_singleton hgesture (by decide)
  | drag _ hgesture => exact isLabelled_singleton hgesture (hdrag _)
  | dragStep _ hgesture => exact isLabelled_singleton hgesture (hdrag _)
  | dragEnd hswipe hgesture =>
    apply isLabelled_singleton hgesture
    rw [Kind.mem_labelled_iff]
    intro swipe hend
    -- A vertical drag ends without a page turn.
    obtain ⟨haxis, hturn⟩ := Kind.dragEnd.inj hend
    rw [hswipe haxis] at hturn
    contradiction

theorem Recognizer.isLabelled_step (precision : Precision) (recognizer : Recognizer)
    (signal : Signal) : IsLabelled (recognizer.step precision signal).2 := by
  cases hbegun : recognizer.stage.begun? signal with
  | none => exact Stage.isLabelled_of_continues (continues_step precision hbegun)
  | some begun =>
    obtain ⟨now, hstep⟩ := step_of_begun precision hbegun
    rw [hstep]
    exact List.forall_mem_nil _

theorem Classifier.isLabelled_performAll (classifier : Classifier) (calls : List Call) :
    IsLabelled (classifier.performAll calls).2 := by
  induction calls generalizing classifier with
  | nil => exact List.forall_mem_nil _
  | cons call calls ih =>
    unfold performAll
    dsimp only
    rw [gestures_perform]
    exact List.forall_mem_append.2 ⟨Recognizer.isLabelled_step .word _ _, ih _⟩

end TouchPanel.Gesture
