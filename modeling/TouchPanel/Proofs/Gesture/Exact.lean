import TouchPanel.Proofs.Binary.Bound
import TouchPanel.Proofs.Gesture.Checked
import TouchPanel.Proofs.Gesture.Measure
import TouchPanel.Proofs.Gesture.Revision

/-!
This module contains that the machine that keeps lengths within words does what the machine that
keeps them exactly does (`Recognizer.agrees_run`), although squares of lengths are soon too large
for words. The two remember the same of a press, but for the largest squared distance, which the one
has as far as it is a word (`Recognizer.run_kept`).
-/

namespace TouchPanel.Gesture

namespace Precision

theorem keep_max (m n : Int) : word.keep (max m n) = max (word.keep m) (word.keep n) := by
  unfold keep
  dsimp only
  omega

theorem squaredDistance_exact (start point : Point) :
    exact.squaredDistance point start = (point.x - start.x) ^ 2 + (point.y - start.y) ^ 2 := by
  rw [sq, sq]
  rfl

theorem squaredDistance_word (start point : Point) :
    word.squaredDistance point start = word.keep (exact.squaredDistance point start) := by
  unfold squaredDistance keep
  have hx := mul_self_nonneg (point.x - start.x)
  have hy := mul_self_nonneg (point.y - start.y)
  dsimp only
  omega

theorem exceeds_and_dominates_exact (along across : Int) :
    (exact.exceeds along dragThreshold && exact.dominates along across) = true ↔
      10 < along.natAbs ∧ 3 * across.natAbs < 2 * along.natAbs := by
  unfold exceeds dominates size keep dragThreshold dominance
  dsimp only
  rw [Bool.and_eq_true, decide_eq_true_iff, decide_eq_true_iff]
  omega

theorem dominates_exact_iff (along across : Int) :
    exact.dominates along across = true ↔ 100 * |along| > 150 * |across| := by
  unfold dominates size keep dominance
  dsimp only
  rw [decide_eq_true_iff, Int.natCast_natAbs, Int.natCast_natAbs, mul_comm, mul_comm |along|]

theorem exceeds_and_dominates_word_eq_exact {along across : Int}
    (hacross : across.natAbs ≤ Point.widest) :
    (word.exceeds along dragThreshold && word.dominates along across) =
      (exact.exceeds along dragThreshold && exact.dominates along across) := by
  rw [Bool.eq_iff_iff, exceeds_and_dominates_word, exceeds_and_dominates_exact]
  simp only [hacross, and_true]

theorem dragAxis?_word_eq_exact {dx dy : Int} (hdx : dx.natAbs ≤ Point.widest)
    (hdy : dy.natAbs ≤ Point.widest) : word.dragAxis? dx dy = exact.dragAxis? dx dy := by
  unfold dragAxis?
  rw [exceeds_and_dominates_word_eq_exact hdx, exceeds_and_dominates_word_eq_exact hdy]

theorem swipe?_word_eq_exact (axis : Axis) (dx : Int) :
    word.swipe? axis dx = exact.swipe? axis dx := by
  have hexceeds : word.exceeds dx swipeThreshold = exact.exceeds dx swipeThreshold := by
    unfold exceeds size keep swipeThreshold
    dsimp only
    rw [decide_eq_decide]
    omega
  unfold swipe?
  rw [hexceeds]

end Precision

namespace Point

variable {start point : Point}

theorem natAbs_x_le (hstart : start.IsWithin widest) (hpoint : point.IsWithin widest) :
    (point.x - start.x).natAbs ≤ widest := by
  have hstart_nonneg := hstart.x_nonneg
  have hstart_le := hstart.x_le
  have hpoint_nonneg := hpoint.x_nonneg
  have hpoint_le := hpoint.x_le
  omega

theorem natAbs_y_le (hstart : start.IsWithin widest) (hpoint : point.IsWithin widest) :
    (point.y - start.y).natAbs ≤ widest := by
  have hstart_nonneg := hstart.y_nonneg
  have hstart_le := hstart.y_le
  have hpoint_nonneg := hpoint.y_nonneg
  have hpoint_le := hpoint.y_le
  omega

end Point

namespace Press

def kept (press : Press) : Press :=
  { press with reach := Precision.word.keep press.reach }

variable (press : Press) (point : Point)

theorem observe_kept : press.kept.observe .word point = (press.observe .exact point).kept := by
  unfold observe kept
  dsimp only
  rw [Precision.squaredDistance_word, Precision.keep_max]

theorem isResting_kept : press.kept.isResting = press.isResting := by
  unfold isResting kept Precision.keep dragThreshold
  dsimp only
  rw [decide_eq_decide]
  omega

theorem reach_observeAll (precision : Precision) (points : List Point) :
    (press.observeAll precision points).reach =
      (points.map fun point => precision.squaredDistance point press.start).foldl max
        press.reach := by
  unfold observeAll
  induction points generalizing press with
  | nil => rfl
  | cons point points ih => exact ih (press.observe precision point)

theorem isResting_observeAll_iff (id : UInt32) (start : Point) (since : UInt64)
    (points : List Point) :
    ((fresh id start since).observeAll .exact points).isResting = true ↔
      (points.map fun point => (point.x - start.x) ^ 2 + (point.y - start.y) ^ 2).foldl max 0 <
        100 := by
  unfold isResting
  rw [decide_eq_true_iff, reach_observeAll]
  simp only [Precision.squaredDistance_exact]
  rfl

end Press

theorem Classifier.isWithin_signal {reference : Reference} {bound : Nat}
    (hwidth : reference.width.toNat ≤ bound) (hheight : reference.height.toNat ≤ bound)
    (hbound : bound < 2 ^ 24) (sample : Sample) :
    (signal reference sample).IsWithin bound := by
  have hpixel (coordinate : Float32) {count : UInt32} (hcount : count.toNat ≤ bound) :
      0 ≤ Reference.pixel coordinate count ∧ Reference.pixel coordinate count ≤ bound := by
    have hnearest := Binary.nearestInt_clampUnit_mul (Nat.lt_of_le_of_lt hcount hbound) coordinate
    unfold Reference.pixel Precision.keep
    dsimp only
    omega
  obtain ⟨hx_nonneg, hx_le⟩ := hpixel sample.x hwidth
  obtain ⟨hy_nonneg, hy_le⟩ := hpixel sample.y hheight
  exact ⟨hx_nonneg, hx_le, hy_nonneg, hy_le⟩

/--
The account of a machine that keeps lengths within words.
-/
def kept : Revision where
  press := Press.kept
  gesture := fun gesture => gesture
  id_press _ := rfl
  start_press _ := rfl
  last_press _ := rfl

theorem judges_kept (press : Press) (now : UInt64) : kept.Judges press now now :=
  ⟨rfl, press.isResting_kept, fun _ _ _ => rfl⟩

namespace Recognizer

variable {recognizer : Recognizer} {signal : Signal}

theorem step_kept (h : recognizer.stage.IsWithin Point.widest)
    (hsignal : signal.IsWithin Point.widest) :
    (kept.recognizer recognizer).step .word signal =
      kept.result (recognizer.step .exact signal) := by
  apply Revision.step_result
  cases signal with
  | tick now => exact .tick fun press _ => judges_kept press now
  | touch phase id point now =>
    refine .touch rfl fun press hpress => ⟨press.observe_kept point, judges_kept _ now, ?_, ?_⟩
    . obtain ⟨hstart, -⟩ := h press hpress
      exact Precision.dragAxis?_word_eq_exact (Point.natAbs_x_le hstart hsignal)
        (Point.natAbs_y_le hstart hsignal)
    . exact fun axis => Precision.swipe?_word_eq_exact axis _

theorem run_kept {signals : List Signal} (h : recognizer.stage.IsWithin Point.widest)
    (hsignals : ∀ signal ∈ signals, signal.IsWithin Point.widest) :
    (kept.recognizer recognizer).run .word signals =
      (recognizer.run .exact signals).map kept.result := by
  induction signals generalizing recognizer with
  | nil => rfl
  | cons signal signals ih =>
    rw [List.forall_mem_cons] at hsignals
    obtain ⟨hsignal, hsignals⟩ := hsignals
    unfold run
    dsimp only
    rw [step_kept h hsignal, List.map_cons, ← ih (isWithin_step .exact h hsignal) hsignals]
    rfl

def glimpse (result : Recognizer × List Gesture) : Glimpse :=
  { gestures := result.2
    phase := result.1.stage.phase
    outcome := result.1.outcome
    primary? := result.1.stage.primary? }

theorem glimpse_kept (result : Recognizer × List Gesture) :
    glimpse (kept.result result) = glimpse result := by
  obtain ⟨⟨stage, outcome⟩, gestures⟩ := result
  have hgestures : gestures.map kept.gesture = gestures := List.map_id' gestures
  unfold Revision.result glimpse
  rw [hgestures]
  cases stage <;> rfl

/--
For points without negative coordinates, the machine takes no difference of coordinates that is not
a word. For coordinates of at most 14316557, which are those of all surfaces of no more pixels, it
shows the same as the machine that keeps lengths exactly. For that one, a contact rests as long as
the largest squared distance from its start is below 100, and the way along an axis is far enough
ahead if it is more than one and a half times the way across.
-/
theorem agrees_run (signals : List Signal) :
    ((∀ signal ∈ signals, signal.IsWithin 2147483647) →
      idle.run? signals = some (idle.run .word signals)) ∧
    ((∀ signal ∈ signals, signal.IsWithin 14316557) →
      (idle.run .word signals).map glimpse = (idle.run .exact signals).map glimpse) ∧
    (∀ press, (idle.after .exact signals).stage.press? = some press →
      ∃ before since, Observes .exact signals before press since ∧
        ∀ more : List Point, (press.observeAll .exact more).isResting = true ↔
          ((since.filterMap (Signal.move? press.id) ++ more).map fun point =>
            (point.x - press.start.x) ^ 2 + (point.y - press.start.y) ^ 2).foldl max 0 < 100) ∧
    (∀ along across : Int,
      Precision.exact.dominates along across = true ↔ 100 * |along| > 150 * |across|) ∧
    ∀ (reference : Reference) (sample : Sample), reference.width.toNat ≤ 14316557 →
      reference.height.toNat ≤ 14316557 →
        (Classifier.signal (Classifier.new reference).reference sample).IsWithin 14316557 := by
  refine ⟨run?_eq_some (Stage.isWithin_idle _), ?_, ?_, Precision.dominates_exact_iff, ?_⟩
  . intro hsignals
    have hrun := @run_kept idle signals (Stage.isWithin_idle _) hsignals
    have hidle : kept.recognizer idle = idle := rfl
    rw [hidle] at hrun
    rw [hrun, List.map_map]
    exact List.map_congr_left fun result _ => glimpse_kept result
  . intro press hpress
    obtain ⟨before, since, hobserves⟩ := observes_after .exact hpress
    refine ⟨before, since, hobserves, ?_⟩
    intro more
    rw [← Press.isResting_observeAll_iff press.id press.start press.since,
      Press.observeAll_append, ← hobserves.eq_observeAll]
  . intro reference sample hwidth hheight
    have hpositive {count : UInt32} (h : count.toNat ≤ 14316557) :
        (max count 1).toNat ≤ 14316557 := by
      rw [UInt32.toNat_max]
      exact Nat.max_le.2 ⟨h, by decide⟩
    exact Classifier.isWithin_signal (hpositive hwidth) (hpositive hheight) (by decide) sample

/--
A drag across a surface that is too large for the squares of its ways to be words.
-/
theorem agrees_run_far :
    let start : Point := ⟨0, 0⟩
    let far : Point := ⟨14316557, 9000000⟩
    let signals : List Signal :=
      [.touch .down 1 start 0, .touch .move 1 far 20, .touch .up 1 far 40]
    ((∀ signal ∈ signals, signal.IsWithin 2147483647) ∧
        ∀ signal ∈ signals, signal.IsWithin 14316557) ∧
      (Precision.word.squaredDistance far start, Precision.exact.squaredDistance far start) =
        (2147483647, 285963804334249) ∧
      ((idle.run .word signals).flatMap Prod.snd).map Gesture.kind =
        [.drag .horizontal, .dragEnd .horizontal (some .right)] ∧
      idle.run? signals = some (idle.run .word signals) ∧
      (idle.run .word signals).map glimpse = (idle.run .exact signals).map glimpse := by
  intro start far signals
  have hword : ∀ signal ∈ signals, signal.IsWithin 2147483647 := by decide
  have hexact : ∀ signal ∈ signals, signal.IsWithin 14316557 := by decide
  obtain ⟨hchecked, hglimpse, -⟩ := agrees_run signals
  exact ⟨⟨hword, hexact⟩, by decide, by decide, hchecked hword, hglimpse hexact⟩

end Recognizer

end TouchPanel.Gesture
