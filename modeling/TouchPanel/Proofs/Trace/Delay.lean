import Mathlib.Algebra.Group.Nat.Defs
import TouchPanel.Proofs.Gesture.Delay
import TouchPanel.Trace.Replay

/-!
This module contains that a replay goes by differences of times only (`Trace.replay_delayed`).
-/

namespace TouchPanel

namespace Gesture.Classifier

def delayed (amount : Nat) (classifier : Classifier) : Classifier :=
  { classifier with recognizer := (delay amount).recognizer classifier.recognizer }

variable {amount : Nat} {classifier : Classifier} {signal : Signal}

theorem canWait_feed (h : classifier.recognizer.stage.CanWait amount)
    (hnow : Time.CanWait amount signal.time) :
    (classifier.feed signal).1.recognizer.stage.CanWait amount :=
  Recognizer.canWait_step .word h hnow

theorem feed_delayed (h : classifier.recognizer.stage.CanWait amount)
    (hnow : Time.CanWait amount signal.time) :
    (classifier.delayed amount).feed (signal.delayed amount) =
      ((classifier.feed signal).1.delayed amount,
        (classifier.feed signal).2.map (Gesture.delayed amount)) := by
  have hstep := Recognizer.step_delayed .word h hnow
  unfold feed delayed
  dsimp only
  rw [hstep, List.map_take]
  rfl

theorem run_delayed {signals : List Signal}
    (h : classifier.recognizer.stage.CanWait amount)
    (hsignals : ∀ signal ∈ signals, Time.CanWait amount signal.time) :
    Trace.run (classifier.delayed amount) (signals.map (Signal.delayed amount)) =
      (Trace.run classifier signals).map (Gesture.delayed amount) := by
  induction signals generalizing classifier with
  | nil => rfl
  | cons signal signals ih =>
    rw [List.forall_mem_cons] at hsignals
    obtain ⟨hnow, hsignals⟩ := hsignals
    rw [List.map_cons]
    unfold Trace.run
    rw [feed_delayed h hnow]
    dsimp only
    rw [ih (canWait_feed h hnow) hsignals, List.map_append]

end Gesture.Classifier

namespace Trace

open Gesture (Classifier Signal)

variable {delay : Nat} {samples : List Sample}

theorem signals_delayed (reference : Reference) :
    signals reference (samples.map (Sample.delayed delay)) =
      (signals reference samples).map (Signal.delayed delay) := by
  unfold signals
  rw [List.flatMap_map, List.map_flatMap]
  rfl

theorem closing_delayed (h : ∀ last ∈ samples.getLast?,
    last.time.toNat + delay + Gesture.holdThreshold.toNat < UInt64.size) :
    closing (samples.map (Sample.delayed delay)) =
      (closing samples).map (Signal.delayed delay) := by
  unfold closing
  rw [List.getLast?_map]
  cases hlast : samples.getLast? with
  | none => rfl
  | some last =>
    have hafter := Time.after_delayed (h last hlast)
    exact congrArg (fun time => [Signal.tick time]) hafter

theorem canWait_signals (reference : Reference)
    (h : ∀ sample ∈ samples, Time.CanWait delay sample.time) :
    ∀ signal ∈ signals reference samples, Time.CanWait delay signal.time := by
  intro signal hsignal
  unfold signals at hsignal
  rw [List.mem_flatMap] at hsignal
  obtain ⟨sample, hsample, hsignal⟩ := hsignal
  rw [List.mem_cons, List.mem_singleton] at hsignal
  obtain rfl | rfl := hsignal <;> exact h sample hsample

theorem canWait_closing (h : ∀ last ∈ samples.getLast?,
    last.time.toNat + delay + Gesture.holdThreshold.toNat < UInt64.size) :
    ∀ signal ∈ closing samples, Time.CanWait delay signal.time := by
  intro signal hsignal
  unfold closing at hsignal
  rw [Option.mem_toList, Option.map_eq_some_iff] at hsignal
  obtain ⟨last, hlast, rfl⟩ := hsignal
  unfold Signal.time
  exact Time.canWait_after (h last hlast)

/--
If all samples come later by so much, then all gestures come later by so much, and they are the same
otherwise. The times of the samples need not be in order. No time may get too large for a word, the
one at which the last press becomes a hold included.
-/
theorem replay_delayed (reference : Reference) (samples : List Sample) (delay : Nat)
    (h : ∀ sample ∈ samples, sample.time.toNat + delay < 2 ^ 64)
    (hlast : ∀ last ∈ samples.getLast?, last.time.toNat + delay + 500 < 2 ^ 64) :
    replay reference (samples.map (Sample.delayed delay)) =
      (replay reference samples).map (Gesture.delayed delay) := by
  unfold replay
  dsimp only
  rw [signals_delayed, closing_delayed hlast, ← List.map_append,
    ← Classifier.run_delayed (Gesture.Stage.canWait_idle delay)]
  . rfl
  . rw [List.forall_mem_append]
    exact ⟨canWait_signals _ h, canWait_closing hlast⟩

/--
A contact that drags across, and one that lifts before it has gone down. A clock that is set back
does no harm.
-/
theorem replay_delayed_backwards :
    let press : Sample := ⟨.down, 7, 0, 0, 1, 900, .touch⟩
    let samples : List Sample :=
      [press, { press with phase := .move, x := 1, time := 400 },
        { press with phase := .up, x := 1, time := 950 },
        { press with phase := .down, time := 200 },
        { press with phase := .up, time := 100 }]
    ((∀ sample ∈ samples, sample.time.toNat + 3000 < 2 ^ 64) ∧
      ∀ last ∈ samples.getLast?, last.time.toNat + 3000 + 500 < 2 ^ 64) ∧
      (replay .standard samples).map (fun gesture => (gesture.kind, gesture.time, gesture.duration))
        = [(.drag .horizontal, 400, 0), (.dragEnd .horizontal (some .right), 950, 50),
          (.click, 100, 0)] ∧
      replay .standard (samples.map (Sample.delayed 3000)) =
        (replay .standard samples).map (Gesture.delayed 3000) := by
  intro press samples
  have htimes : ∀ sample ∈ samples, sample.time.toNat + 3000 < 2 ^ 64 := by decide
  have hlast : ∀ last ∈ samples.getLast?, last.time.toNat + 3000 + 500 < 2 ^ 64 := by decide
  refine ⟨⟨htimes, hlast⟩, ?_, replay_delayed .standard samples 3000 htimes hlast⟩
  decide

end Trace

end TouchPanel
