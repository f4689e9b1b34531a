import TouchPanel.Gesture.Classifier

/-!
This module contains what one signal can do to the machine that follows the primary contact. Main
statements: `Recognizer.step_of_begun` and `Recognizer.continues_step`. A signal either begins a
press, and then nothing is reported, or it carries on with the present stage in one of the ways of
`Stage.Continues`.
-/

namespace TouchPanel.Gesture

structure Press.IsSame (press later : Press) : Prop where
  id : later.id = press.id
  start : later.start = press.start

structure Press.Reports (press : Press) (kind : Kind) (gesture : Gesture) : Prop where
  kind : gesture.kind = kind
  id : gesture.id = press.id
  start : gesture.start = press.start

namespace Press

theorem isSame_refl (press : Press) : IsSame press press := ⟨rfl, rfl⟩

theorem isSame_observe (press : Press) (precision : Precision) (point : Point) :
    IsSame press (press.observe precision point) := ⟨rfl, rfl⟩

theorem reports_gesture (press : Press) (kind : Kind) (now : UInt64) (dx dy : Int) :
    press.Reports kind (press.gesture kind now dx dy) := ⟨rfl, rfl, rfl⟩

theorem reports_gesture_observe (press : Press) (precision : Precision) (point : Point)
    (kind : Kind) (now : UInt64) (dx dy : Int) :
    press.Reports kind ((press.observe precision point).gesture kind now dx dy) := ⟨rfl, rfl, rfl⟩

end Press

namespace Stage

/--
The contact and the point with which a signal begins a press: a contact goes down while none is
followed, or the followed one goes down again before it has become a gesture.
-/
def begun? (stage : Stage) : Signal → Option (UInt32 × Point)
  | .touch .down id point _ =>
    if stage.phase = .idle ∨ stage.phase = .potential ∧ stage.primary? = some id then
      some (id, point)
    else
      none
  | _ => none

/--
How a signal that begins no press can carry on with a stage, and what it reports.
-/
inductive Continues : Stage → List Gesture → Stage → Prop where
  | idle : Continues .idle [] .idle
  | press {press later : Press} (h : press.IsSame later) :
    Continues (.pressed press) [] (.pressed later)
  | hold {press later : Press} {gesture : Gesture} (h : press.IsSame later)
    (hgesture : press.Reports .hold gesture) :
    Continues (.pressed press) [gesture] (.holding later)
  | drag {axis : Axis} {press later : Press} {gesture : Gesture} (h : press.IsSame later)
    (hgesture : press.Reports (.drag axis) gesture) :
    Continues (.pressed press) [gesture] (.dragging axis later)
  | lift {press : Press} : Continues (.pressed press) [] .idle
  | liftClick {press : Press} {gesture : Gesture} (hgesture : press.Reports .click gesture) :
    Continues (.pressed press) [gesture] .idle
  | liftHold {press : Press} {gesture : Gesture} (hgesture : press.Reports .hold gesture) :
    Continues (.pressed press) [gesture] .idle
  | holding {press later : Press} (h : press.IsSame later) :
    Continues (.holding press) [] (.holding later)
  | holdingLift {press : Press} : Continues (.holding press) [] .idle
  | dragging {axis : Axis} {press later : Press} (h : press.IsSame later) :
    Continues (.dragging axis press) [] (.dragging axis later)
  | dragStep {axis : Axis} {press later : Press} {gesture : Gesture} (h : press.IsSame later)
    (hgesture : press.Reports (.drag axis) gesture) :
    Continues (.dragging axis press) [gesture] (.dragging axis later)
  | dragEnd {axis : Axis} {press : Press} {swipe : Option Direction} {gesture : Gesture}
    (hswipe : axis = .vertical → swipe = none)
    (hgesture : press.Reports (.dragEnd axis swipe) gesture) :
    Continues (.dragging axis press) [gesture] .idle

theorem length_le_of_continues {stage next : Stage} {gestures : List Gesture}
    (h : Continues stage gestures next) : gestures.length ≤ 1 := by
  cases h <;> simp

theorem press?_of_continues {stage next : Stage} {gestures : List Gesture} {later : Press}
    (h : Continues stage gestures next) (hnext : next.press? = some later) :
    ∃ press, stage.press? = some press ∧ press.IsSame later := by
  cases h with
  | idle => contradiction
  | lift => contradiction
  | liftClick => contradiction
  | liftHold => contradiction
  | holdingLift => contradiction
  | dragEnd => contradiction
  | press hsame | hold hsame | drag hsame | holding hsame | dragging hsame | dragStep hsame =>
    obtain rfl := Option.some.inj hnext
    exact ⟨_, rfl, hsame⟩

theorem primary?_of_continues {stage next : Stage} {gestures : List Gesture} {id : UInt32}
    (h : Continues stage gestures next) (hnext : next.primary? = some id) :
    stage.primary? = some id := by
  obtain ⟨later, hlater, rfl⟩ := Option.map_eq_some_iff.1 hnext
  obtain ⟨press, hpress, hsame⟩ := press?_of_continues h hlater
  unfold primary?
  rw [hpress, Option.map_some, hsame.id]

theorem reports_of_continues {stage next : Stage} {gestures : List Gesture} {gesture : Gesture}
    (h : Continues stage gestures next) (hmem : gesture ∈ gestures) :
    ∃ press kind, stage.press? = some press ∧ press.Reports kind gesture := by
  cases h with
  | idle => contradiction
  | press => contradiction
  | lift => contradiction
  | holding => contradiction
  | holdingLift => contradiction
  | dragging => contradiction
  | hold _ hgesture | drag _ hgesture | liftClick hgesture | liftHold hgesture
  | dragStep _ hgesture | dragEnd _ hgesture =>
    obtain rfl := List.mem_singleton.1 hmem
    exact ⟨_, _, rfl, hgesture⟩

theorem begun?_idle (phase : Phase) (id : UInt32) (point : Point) (now : UInt64) :
    idle.begun? (.touch phase id point now) = if phase = .down then some (id, point) else none := by
  cases phase <;> rfl

theorem begun?_pressed (press : Press) (phase : Phase) (id : UInt32) (point : Point)
    (now : UInt64) :
    (pressed press).begun? (.touch phase id point now) =
      if phase = .down ∧ press.id = id then some (id, point) else none := by
  cases phase <;> simp [begun?, Stage.phase, primary?, press?]

theorem begun?_holding (press : Press) (signal : Signal) :
    (holding press).begun? signal = none := by
  unfold begun?
  split
  . rw [if_neg]
    simp [Stage.phase]
  . rfl

theorem begun?_dragging (axis : Axis) (press : Press) (signal : Signal) :
    (dragging axis press).begun? signal = none := by
  unfold begun?
  split
  . rw [if_neg]
    simp [Stage.phase]
  . rfl

end Stage

theorem Precision.swipe?_vertical (precision : Precision) (dx : Int) :
    precision.swipe? .vertical dx = none := rfl

namespace Recognizer

variable (precision : Precision) {recognizer : Recognizer} {press : Press} {axis : Axis}

theorem continues_stepPressed (hstage : recognizer.stage = .pressed press) {signal : Signal}
    (hbegun : recognizer.stage.begun? signal = none) :
    recognizer.stage.Continues (recognizer.stepPressed precision press signal).2
      (recognizer.stepPressed precision press signal).1.stage := by
  have hrest : recognizer.stage.Continues [] recognizer.stage := by
    rw [hstage]
    exact .press press.isSame_refl
  unfold stepPressed
  cases signal with
  | tick now =>
    dsimp only
    split
    . rw [hstage]
      exact .hold press.isSame_refl (press.reports_gesture ..)
    . exact hrest
  | touch phase id point now =>
    dsimp only
    split
    . exact hrest
    . next hid =>
      rw [Decidable.not_not] at hid
      rw [hstage, Stage.begun?_pressed] at hbegun
      rw [hstage]
      cases phase with
      | down => simp [hid] at hbegun
      | move =>
        dsimp only
        split
        . exact .hold (press.isSame_observe ..) (press.reports_gesture_observe ..)
        . split
          . exact .drag (press.isSame_observe ..) (press.reports_gesture_observe ..)
          . exact .press (press.isSame_observe ..)
      | up =>
        dsimp only
        split
        . exact .liftHold (press.reports_gesture_observe ..)
        . split
          . exact .liftClick (press.reports_gesture_observe ..)
          . exact .lift

theorem continues_stepHolding (hstage : recognizer.stage = .holding press) (signal : Signal) :
    recognizer.stage.Continues (recognizer.stepHolding precision press signal).2
      (recognizer.stepHolding precision press signal).1.stage := by
  have hrest : recognizer.stage.Continues [] recognizer.stage := by
    rw [hstage]
    exact .holding press.isSame_refl
  unfold stepHolding
  cases signal with
  | tick => exact hrest
  | touch phase id point now =>
    dsimp only
    split
    . exact hrest
    . cases phase with
      | down => exact hrest
      | move =>
        rw [hstage]
        exact .holding (press.isSame_observe ..)
      | up =>
        rw [hstage]
        exact .holdingLift

theorem continues_stepDragging (hstage : recognizer.stage = .dragging axis press)
    (signal : Signal) :
    recognizer.stage.Continues (recognizer.stepDragging precision axis press signal).2
      (recognizer.stepDragging precision axis press signal).1.stage := by
  have hrest : recognizer.stage.Continues [] recognizer.stage := by
    rw [hstage]
    exact .dragging press.isSame_refl
  unfold stepDragging
  cases signal with
  | tick => exact hrest
  | touch phase id point now =>
    dsimp only
    split
    . exact hrest
    . cases phase with
      | down => exact hrest
      | move =>
        rw [hstage]
        dsimp only
        split
        . exact .dragStep (press.isSame_observe ..) (press.reports_gesture_observe ..)
        . exact .dragging (press.isSame_observe ..)
      | up =>
        rw [hstage]
        refine .dragEnd ?_ (press.reports_gesture_observe ..)
        rintro rfl
        apply Precision.swipe?_vertical

theorem continues_step {signal : Signal} (hbegun : recognizer.stage.begun? signal = none) :
    recognizer.stage.Continues (recognizer.step precision signal).2
      (recognizer.step precision signal).1.stage := by
  unfold step
  cases hstage : recognizer.stage with
  | idle =>
    dsimp only
    split
    . rw [hstage, Stage.begun?_idle] at hbegun
      contradiction
    . rw [hstage]
      exact .idle
  | pressed press =>
    have hstep := continues_stepPressed precision hstage hbegun
    rw [hstage] at hstep
    exact hstep
  | holding press =>
    have hstep := continues_stepHolding precision hstage signal
    rw [hstage] at hstep
    exact hstep
  | dragging axis press =>
    have hstep := continues_stepDragging precision hstage signal
    rw [hstage] at hstep
    exact hstep

theorem step_of_begun {signal : Signal} {id : UInt32} {point : Point}
    (hbegun : recognizer.stage.begun? signal = some (id, point)) :
    ∃ now, recognizer.step precision signal =
      (enter (.pressed (Press.fresh id point now)), []) := by
  cases signal with
  | tick => contradiction
  | touch phase other place now =>
    refine ⟨now, ?_⟩
    unfold step
    cases hstage : recognizer.stage with
    | idle =>
      rw [hstage, Stage.begun?_idle] at hbegun
      split at hbegun
      . next hphase =>
        subst hphase
        obtain ⟨rfl, rfl⟩ := Prod.mk.inj (Option.some.inj hbegun)
        rfl
      . contradiction
    | pressed press =>
      rw [hstage, Stage.begun?_pressed] at hbegun
      split at hbegun
      . next hphase =>
        obtain ⟨rfl, rfl⟩ := hphase
        obtain ⟨rfl, rfl⟩ := Prod.mk.inj (Option.some.inj hbegun)
        dsimp only
        unfold stepPressed
        simp
      . contradiction
    | holding press =>
      rw [hstage, Stage.begun?_holding] at hbegun
      contradiction
    | dragging axis press =>
      rw [hstage, Stage.begun?_dragging] at hbegun
      contradiction

theorem length_step_le (recognizer : Recognizer) (signal : Signal) :
    (recognizer.step precision signal).2.length ≤ 1 := by
  cases hbegun : recognizer.stage.begun? signal with
  | none => exact Stage.length_le_of_continues (continues_step precision hbegun)
  | some begun =>
    obtain ⟨now, hstep⟩ := step_of_begun precision hbegun
    rw [hstep]
    exact Nat.zero_le 1

theorem step_up {id : UInt32} (hprimary : recognizer.stage.primary? = some id) (point : Point)
    (now : UInt64) : (recognizer.step precision (.touch .up id point now)).1.stage = .idle := by
  unfold step
  cases hstage : recognizer.stage with
  | idle =>
    rw [hstage] at hprimary
    contradiction
  | pressed press =>
    rw [hstage] at hprimary
    obtain rfl := Option.some.inj hprimary
    dsimp only
    unfold stepPressed
    simp only [ne_eq, not_true_eq_false, if_false]
    split
    . rfl
    . split <;> rfl
  | holding press =>
    rw [hstage] at hprimary
    obtain rfl := Option.some.inj hprimary
    dsimp only
    unfold stepHolding
    simp
  | dragging axis press =>
    rw [hstage] at hprimary
    obtain rfl := Option.some.inj hprimary
    dsimp only
    unfold stepDragging
    simp

theorem primary?_step {signal : Signal} {id : UInt32}
    (h : (recognizer.step precision signal).1.stage.primary? = some id) :
    (∃ point now, signal = .touch .down id point now) ∨
      (recognizer.stage.primary? = some id ∧ ∀ point now, signal ≠ .touch .up id point now) := by
  cases hbegun : recognizer.stage.begun? signal with
  | some begun =>
    apply Or.inl
    obtain ⟨now, hstep⟩ := step_of_begun precision hbegun
    rw [hstep] at h
    obtain rfl := Option.some.inj h
    unfold Stage.begun? at hbegun
    split at hbegun
    . next point now' _ =>
      split at hbegun
      . obtain ⟨rfl, -⟩ := Prod.mk.inj (Option.some.inj hbegun)
        exact ⟨_, _, rfl⟩
      . contradiction
    . contradiction
  | none =>
    apply Or.inr
    have hsame : recognizer.stage.primary? = some id :=
      Stage.primary?_of_continues (continues_step precision hbegun) h
    refine ⟨hsame, ?_⟩
    rintro point now rfl
    rw [step_up precision hsame] at h
    contradiction

end Recognizer

end TouchPanel.Gesture
