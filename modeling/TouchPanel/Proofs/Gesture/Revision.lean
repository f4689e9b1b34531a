import TouchPanel.Gesture.Recognizer

/-!
This module contains a way to compare two machines that do not remember the same of a press. If what
each of them makes of a press in one step agrees, then their steps agree (`Revision.step_result`).
-/

namespace TouchPanel.Gesture

/--
Another account of presses and of gestures. Of which contact a press is, where it went down and
where it was last seen stay the same.
-/
structure Revision where
  press : Press → Press
  gesture : Gesture → Gesture
  id_press : ∀ before, (press before).id = before.id
  start_press : ∀ before, (press before).start = before.start
  last_press : ∀ before, (press before).last = before.last

namespace Revision

variable (revision : Revision) (precision other : Precision)

def stage : Stage → Stage
  | .idle => .idle
  | .pressed press => .pressed (revision.press press)
  | .holding press => .holding (revision.press press)
  | .dragging axis press => .dragging axis (revision.press press)

def recognizer (recognizer : Recognizer) : Recognizer :=
  { recognizer with stage := revision.stage recognizer.stage }

def result (result : Recognizer × List Gesture) : Recognizer × List Gesture :=
  (revision.recognizer result.1, result.2.map revision.gesture)

structure Judges (press : Press) (now later : UInt64) : Prop where
  elapsed : Time.elapsed (revision.press press).since later = Time.elapsed press.since now
  isResting : (revision.press press).isResting = press.isResting
  gesture : ∀ kind dx dy, (revision.press press).gesture kind later dx dy =
    revision.gesture (press.gesture kind now dx dy)

structure Sees (press : Press) (point : Point) (now later : UInt64) : Prop where
  observe : (revision.press press).observe other point =
    revision.press (press.observe precision point)
  judges : revision.Judges (press.observe precision point) now later
  dragAxis : other.dragAxis? (point.x - press.start.x) (point.y - press.start.y) =
    precision.dragAxis? (point.x - press.start.x) (point.y - press.start.y)
  swipe : ∀ axis, other.swipe? axis (point.x - press.start.x) =
    precision.swipe? axis (point.x - press.start.x)

/--
Two signals tell the same, one for each account, of the press that is followed and of one that may
begin.
-/
inductive Matches (stage : Stage) : Signal → Signal → Prop where
  | tick {now later : UInt64}
    (hjudges : ∀ press, stage.press? = some press → revision.Judges press now later) :
    Matches stage (.tick now) (.tick later)
  | touch {phase : Phase} {id : UInt32} {point : Point} {now later : UInt64}
    (hfresh : Press.fresh id point later = revision.press (Press.fresh id point now))
    (hsees : ∀ press, stage.press? = some press →
      revision.Sees precision other press point now later) :
    Matches stage (.touch phase id point now) (.touch phase id point later)

variable {revision precision other} {press : Press} {point : Point} {now later : UInt64}
  {phase : Phase} {id : UInt32}

theorem isHeld_of_judges (h : revision.Judges press now later) :
    (revision.press press).isHeld later = press.isHeld now := by
  unfold Press.isHeld
  rw [h.elapsed, h.isResting]

theorem stepPressed_tick (precision other : Precision) (recognizer : Recognizer)
    (h : revision.Judges press now later) :
    (revision.recognizer recognizer).stepPressed other (revision.press press) (.tick later) =
      revision.result (recognizer.stepPressed precision press (.tick now)) := by
  unfold Recognizer.stepPressed
  dsimp only
  rw [isHeld_of_judges h, h.gesture]
  split <;> rfl

theorem stepPressed_touch (recognizer : Recognizer)
    (hfresh : Press.fresh id point later = revision.press (Press.fresh id point now))
    (h : revision.Sees precision other press point now later) :
    (revision.recognizer recognizer).stepPressed other (revision.press press)
        (.touch phase id point later) =
      revision.result (recognizer.stepPressed precision press (.touch phase id point now)) := by
  have hjudges := h.judges
  unfold Recognizer.stepPressed
  dsimp only
  rw [revision.id_press, h.observe, hfresh]
  split
  . rfl
  . cases phase with
    | down => rfl
    | move =>
      have hstart : (press.observe precision point).start = press.start := rfl
      dsimp only
      rw [isHeld_of_judges hjudges, hjudges.gesture, revision.start_press, hstart, h.dragAxis]
      split
      . rfl
      . cases precision.dragAxis? (point.x - press.start.x) (point.y - press.start.y) with
        | none => rfl
        | some axis =>
          dsimp only
          rw [hjudges.gesture]
          rfl
    | up =>
      dsimp only
      rw [isHeld_of_judges hjudges, hjudges.gesture, hjudges.gesture, hjudges.elapsed,
        hjudges.isResting]
      split
      . rfl
      . split <;> rfl

theorem stepHolding_touch (recognizer : Recognizer)
    (h : revision.Sees precision other press point now later) :
    (revision.recognizer recognizer).stepHolding other (revision.press press)
        (.touch phase id point later) =
      revision.result (recognizer.stepHolding precision press (.touch phase id point now)) := by
  unfold Recognizer.stepHolding
  dsimp only
  rw [revision.id_press, h.observe]
  split
  . rfl
  . cases phase <;> rfl

theorem stepDragging_touch (recognizer : Recognizer) (axis : Axis)
    (h : revision.Sees precision other press point now later) :
    (revision.recognizer recognizer).stepDragging other axis (revision.press press)
        (.touch phase id point later) =
      revision.result
        (recognizer.stepDragging precision axis press (.touch phase id point now)) := by
  have hstart : (press.observe precision point).start = press.start := rfl
  unfold Recognizer.stepDragging
  dsimp only
  rw [revision.id_press, revision.last_press, h.observe, revision.start_press, hstart, h.swipe,
    h.judges.gesture, h.judges.gesture]
  split
  . rfl
  . cases phase with
    | down => rfl
    | up => rfl
    | move =>
      dsimp only
      split <;> rfl

theorem step_result {recognizer : Recognizer} {signal echo : Signal}
    (h : revision.Matches precision other recognizer.stage signal echo) :
    (revision.recognizer recognizer).step other echo =
      revision.result (recognizer.step precision signal) := by
  obtain ⟨stage, outcome⟩ := recognizer
  cases h with
  | tick hjudges =>
    cases stage with
    | pressed press => exact stepPressed_tick precision other _ (hjudges press rfl)
    | idle | holding | dragging => rfl
  | @touch phase id point now later hfresh hsees =>
    cases stage with
    | idle =>
      cases phase with
      | down => exact congrArg (fun press => (Recognizer.enter (.pressed press), [])) hfresh
      | move | up => rfl
    | pressed press => exact stepPressed_touch _ hfresh (hsees press rfl)
    | holding press => exact stepHolding_touch _ (hsees press rfl)
    | dragging axis press => exact stepDragging_touch _ axis (hsees press rfl)

end Revision

end TouchPanel.Gesture
