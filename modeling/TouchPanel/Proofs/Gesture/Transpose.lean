import TouchPanel.Proofs.Gesture.Measure
import TouchPanel.Proofs.Gesture.Report

/-!
This module contains the proof that a classifier treats both axes alike. If the reference surface and
all samples are transposed, it reports the transposed gestures, except that only a horizontal drag
turns pages (`Classifier.reportAll_transposed`).

The machine asks for a horizontal drag first. That this decides nothing is the heart of the argument:
no way is far enough ahead along both axes, even where lengths are too large to be kept
(`Precision.not_leads_both`).
-/

namespace TouchPanel

def Reference.transposed (reference : Reference) : Reference :=
  ⟨reference.height, reference.width⟩

def Sample.transposed (sample : Sample) : Sample :=
  { sample with x := sample.y, y := sample.x }

namespace Gesture

def Axis.transposed : Axis → Axis
  | horizontal => vertical
  | vertical => horizontal

def Point.transposed (point : Point) : Point := ⟨point.y, point.x⟩

def Kind.transposed : Kind → Kind
  | click => click
  | hold => hold
  | drag axis => drag axis.transposed
  | dragEnd axis swipe => dragEnd axis.transposed swipe

def Class.transposed : Class → Class
  | idle => idle
  | potential => potential
  | click => click
  | hold => hold
  | drag axis => drag axis.transposed

def Press.transposed (press : Press) : Press :=
  { press with start := press.start.transposed, last := press.last.transposed }

def Stage.transposed : Stage → Stage
  | idle => idle
  | pressed press => pressed press.transposed
  | holding press => holding press.transposed
  | dragging axis press => dragging axis.transposed press.transposed

def Recognizer.transposed (recognizer : Recognizer) : Recognizer :=
  ⟨recognizer.stage.transposed, recognizer.outcome.transposed⟩

def Signal.transposed : Signal → Signal
  | touch phase id point time => touch phase id point.transposed time
  | tick time => tick time

def Classifier.transposed (classifier : Classifier) : Classifier :=
  ⟨classifier.reference.transposed, classifier.recognizer.transposed⟩

def Classifier.Call.transposed : Call → Call
  | handle sample => handle sample.transposed
  | tick now => tick now

def Kind.withoutSwipe : Kind → Kind
  | dragEnd axis _ => dragEnd axis none
  | kind => kind

def transposed (gesture : Gesture) : Gesture :=
  { gesture with
    kind := gesture.kind.transposed
    point := gesture.point.transposed
    start := gesture.start.transposed
    dx := gesture.dy
    dy := gesture.dx }

def withoutSwipe (gesture : Gesture) : Gesture :=
  { gesture with kind := gesture.kind.withoutSwipe }

namespace Precision

variable (precision : Precision)

def leads (along across : Int) : Bool :=
  precision.exceeds along dragThreshold && precision.dominates along across

theorem keep_le_keep {m n : Int} (h : m ≤ n) : precision.keep m ≤ precision.keep n := by
  unfold keep
  cases precision with
  | exact => exact h
  | word => dsimp only; omega

theorem size_nonneg (n : Int) : 0 ≤ precision.size n := by
  unfold size keep
  cases precision with
  | exact => exact Int.natCast_nonneg _
  | word => dsimp only; omega

theorem not_leads_both (dx dy : Int) : ¬(precision.leads dx dy ∧ precision.leads dy dx) := by
  have hkeep (n : Int) :
      precision.keep (precision.size n * 100) ≤ precision.keep (precision.size n * dominance) := by
    apply precision.keep_le_keep
    exact Int.mul_le_mul_of_nonneg_left (by decide) (precision.size_nonneg n)
  unfold leads dominates
  simp only [Bool.and_eq_true, decide_eq_true_eq]
  rintro ⟨⟨-, hx⟩, -, hy⟩
  have hlt := calc precision.keep (precision.size dy * dominance)
      _ < precision.keep (precision.size dx * 100) := hx
      _ ≤ precision.keep (precision.size dx * dominance) := hkeep dx
      _ < precision.keep (precision.size dy * 100) := hy
      _ ≤ precision.keep (precision.size dy * dominance) := hkeep dy
  exact Int.lt_irrefl _ hlt

theorem dragAxis?_eq_horizontal_first (dx dy : Int) :
    precision.dragAxis? dx dy =
      if precision.leads dx dy then some .horizontal
      else if precision.leads dy dx then some .vertical
      else none := rfl

theorem dragAxis?_eq_vertical_first (dx dy : Int) :
    precision.dragAxis? dx dy =
      if precision.leads dy dx then some .vertical
      else if precision.leads dx dy then some .horizontal
      else none := by
  have hboth := precision.not_leads_both dx dy
  rw [dragAxis?_eq_horizontal_first]
  cases hx : precision.leads dx dy <;> cases hy : precision.leads dy dx <;> simp_all

theorem dragAxis?_swap (dx dy : Int) :
    precision.dragAxis? dy dx = (precision.dragAxis? dx dy).map Axis.transposed := by
  rw [precision.dragAxis?_eq_vertical_first dy dx, precision.dragAxis?_eq_horizontal_first dx dy]
  split
  . rfl
  . split <;> rfl

theorem squaredDistance_transposed (a b : Point) :
    precision.squaredDistance a.transposed b.transposed = precision.squaredDistance a b := by
  unfold squaredDistance Point.transposed
  dsimp only
  rw [Int.add_comm]

end Precision

namespace Press

variable (precision : Precision) (press : Press) (point : Point)

theorem observe_transposed :
    press.transposed.observe precision point.transposed =
      (press.observe precision point).transposed := by
  unfold observe transposed
  dsimp only
  rw [Precision.squaredDistance_transposed]

end Press

namespace Stage

theorem phase_transposed (stage : Stage) : stage.transposed.phase = stage.phase.transposed := by
  cases stage <;> rfl

theorem primary?_transposed (stage : Stage) : stage.transposed.primary? = stage.primary? := by
  cases stage <;> rfl

end Stage

/--
What a machine has come to and reports is the transposed of what another one does, but for the pages
that are turned.
-/
structure IsTransposed (result other : Recognizer × List Gesture) : Prop where
  recognizer : other.1 = result.1.transposed
  gestures : other.2.map withoutSwipe = result.2.map fun gesture => gesture.transposed.withoutSwipe

namespace Recognizer

variable (precision : Precision) (recognizer : Recognizer) (press : Press)

theorem stepPressed_transposed (signal : Signal) :
    IsTransposed (recognizer.stepPressed precision press signal)
      (recognizer.transposed.stepPressed precision press.transposed signal.transposed) := by
  cases signal with
  | tick now =>
    have hheld : press.transposed.isHeld now = press.isHeld now := rfl
    unfold stepPressed Signal.transposed
    dsimp only
    rw [hheld]
    split <;> exact ⟨rfl, rfl⟩
  | touch phase id point now =>
    have hid : press.transposed.id = press.id := rfl
    unfold stepPressed Signal.transposed
    dsimp only
    rw [hid]
    split
    . exact ⟨rfl, rfl⟩
    . cases phase with
      | down => exact ⟨rfl, rfl⟩
      | move =>
        dsimp only
        rw [Press.observe_transposed]
        generalize press.observe precision point = observed
        have hheld : observed.transposed.isHeld now = observed.isHeld now := rfl
        have haxis : precision.dragAxis? (point.transposed.x - observed.transposed.start.x)
            (point.transposed.y - observed.transposed.start.y) =
              (precision.dragAxis? (point.x - observed.start.x)
                (point.y - observed.start.y)).map Axis.transposed :=
          precision.dragAxis?_swap ..
        rw [hheld]
        split
        . exact ⟨rfl, rfl⟩
        . rw [haxis]
          cases precision.dragAxis? (point.x - observed.start.x) (point.y - observed.start.y) <;>
            exact ⟨rfl, rfl⟩
      | up =>
        dsimp only
        rw [Press.observe_transposed]
        generalize press.observe precision point = observed
        have hheld : observed.transposed.isHeld now = observed.isHeld now := rfl
        have hrests : observed.transposed.isResting = observed.isResting := rfl
        have hsince : observed.transposed.since = observed.since := rfl
        rw [hheld, hrests, hsince]
        split
        . exact ⟨rfl, rfl⟩
        . split <;> exact ⟨rfl, rfl⟩

theorem stepHolding_transposed (signal : Signal) :
    IsTransposed (recognizer.stepHolding precision press signal)
      (recognizer.transposed.stepHolding precision press.transposed signal.transposed) := by
  cases signal with
  | tick now => exact ⟨rfl, rfl⟩
  | touch phase id point now =>
    have hid : press.transposed.id = press.id := rfl
    unfold stepHolding Signal.transposed
    dsimp only
    rw [hid]
    split
    . exact ⟨rfl, rfl⟩
    . cases phase with
      | down => exact ⟨rfl, rfl⟩
      | move =>
        dsimp only
        rw [Press.observe_transposed]
        exact ⟨rfl, rfl⟩
      | up => exact ⟨rfl, rfl⟩

theorem stepDragging_transposed (axis : Axis) (signal : Signal) :
    IsTransposed (recognizer.stepDragging precision axis press signal)
      (recognizer.transposed.stepDragging precision axis.transposed press.transposed
        signal.transposed) := by
  cases signal with
  | tick now => exact ⟨rfl, rfl⟩
  | touch phase id point now =>
    have hid : press.transposed.id = press.id := rfl
    unfold stepDragging Signal.transposed
    dsimp only
    rw [hid]
    split
    . exact ⟨rfl, rfl⟩
    . cases phase with
      | down => exact ⟨rfl, rfl⟩
      | move =>
        have hmoved : (point.transposed.x - press.transposed.last.x ≠ 0 ∨
            point.transposed.y - press.transposed.last.y ≠ 0) ↔
              (point.x - press.last.x ≠ 0 ∨ point.y - press.last.y ≠ 0) := Or.comm
        dsimp only
        rw [Press.observe_transposed, if_congr hmoved rfl rfl]
        split <;> exact ⟨rfl, rfl⟩
      | up =>
        dsimp only
        rw [Press.observe_transposed]
        exact ⟨rfl, rfl⟩

theorem step_transposed (signal : Signal) :
    IsTransposed (recognizer.step precision signal)
      (recognizer.transposed.step precision signal.transposed) := by
  obtain ⟨stage, outcome⟩ := recognizer
  cases stage with
  | idle =>
    cases signal with
    | tick => exact ⟨rfl, rfl⟩
    | touch phase => cases phase <;> exact ⟨rfl, rfl⟩
  | pressed press => exact stepPressed_transposed precision _ press signal
  | holding press => exact stepHolding_transposed precision _ press signal
  | dragging axis press => exact stepDragging_transposed precision _ press axis signal

end Recognizer

namespace Classifier

theorem perform_transposed (classifier : Classifier) (call : Call) :
    (classifier.transposed.perform call.transposed).1 = (classifier.perform call).1.transposed ∧
      (classifier.transposed.perform call.transposed).2.map withoutSwipe =
        (classifier.perform call).2.map fun gesture => gesture.transposed.withoutSwipe := by
  have hheard : classifier.transposed.heard call.transposed =
      (classifier.heard call).transposed := by
    cases call <;> rfl
  have hstep := classifier.recognizer.step_transposed .word (classifier.heard call)
  rw [perform_eq_step, perform_eq_step, hheard]
  exact ⟨congrArg (Classifier.mk _) hstep.recognizer, hstep.gestures⟩

theorem reportAll_map_transposed (classifier : Classifier) (calls : List Call) :
    (classifier.transposed.reportAll (calls.map Call.transposed)).1 =
        (classifier.reportAll calls).1.transposed ∧
      (classifier.transposed.reportAll (calls.map Call.transposed)).2.map (List.map withoutSwipe) =
        (classifier.reportAll calls).2.map
          (List.map fun gesture => gesture.transposed.withoutSwipe) := by
  induction calls generalizing classifier with
  | nil => exact ⟨rfl, rfl⟩
  | cons call calls ih =>
    obtain ⟨hnext, hgestures⟩ := perform_transposed classifier call
    obtain ⟨hlast, hrest⟩ := ih (classifier.perform call).1
    rw [List.map_cons, reportAll_cons, reportAll_cons, hnext]
    refine ⟨hlast, ?_⟩
    rw [List.map_cons, List.map_cons, hgestures, hrest]

/--
Whatever a classifier is called for, on a transposed surface and with transposed samples each call
reports the transposed gestures, but for the pages that are turned, and leaves the transposed state.
No way starts a drag along both axes, so the order in which the axes are asked for is of no account.
-/
theorem reportAll_transposed (reference : Reference) (calls : List Call) :
    let run := (new reference).reportAll calls
    let other := (new reference.transposed).reportAll (calls.map Call.transposed)
    other.2.map (List.map withoutSwipe) =
        run.2.map (List.map fun gesture => gesture.transposed.withoutSwipe) ∧
      (other.1.phase = run.1.phase.transposed ∧
        other.1.recognizer.outcome = run.1.recognizer.outcome.transposed ∧
        other.1.primary? = run.1.primary? ∧ other.1 = run.1.transposed) ∧
      ∀ (precision : Precision) (dx dy : Int),
        ¬(precision.leads dx dy ∧ precision.leads dy dx) ∧
        precision.dragAxis? dx dy =
          (if precision.leads dx dy then some .horizontal
          else if precision.leads dy dx then some .vertical
          else none) ∧
        precision.dragAxis? dx dy =
          if precision.leads dy dx then some .vertical
          else if precision.leads dx dy then some .horizontal
          else none := by
  intro run other
  obtain ⟨hlast, hgestures⟩ := reportAll_map_transposed (new reference) calls
  have hother : other.1 = run.1.transposed := hlast
  refine ⟨hgestures, ⟨?_, ?_, ?_, hother⟩, ?_⟩
  . rw [hother]
    exact Stage.phase_transposed _
  . rw [hother]
    rfl
  . rw [hother]
    exact Stage.primary?_transposed _
  . intro precision dx dy
    exact ⟨precision.not_leads_both dx dy, precision.dragAxis?_eq_horizontal_first dx dy,
      precision.dragAxis?_eq_vertical_first dx dy⟩

end Classifier

end Gesture

end TouchPanel
