import TouchPanel.Gesture.Classifier
import TouchPanel.Proofs.Gesture.Following
import TouchPanel.Proofs.Gesture.Revision

/-!
This module contains that the machine that follows the primary contact goes by differences of times
only (`Recognizer.step_delayed`): if a stroke comes later, its gestures come later by as much, and
nothing else changes. Times may go backwards, as long as none of them gets too large for a word.
-/

namespace TouchPanel

namespace Time

def delayed (delay : Nat) (t : UInt64) : UInt64 := UInt64.ofNat (t.toNat + delay)

def CanWait (delay : Nat) (t : UInt64) : Prop := t.toNat + delay < UInt64.size

instance (delay : Nat) (t : UInt64) : Decidable (CanWait delay t) :=
  inferInstanceAs (Decidable (_ < _))

variable {delay : Nat} {start now t step : UInt64}

theorem toNat_delayed (h : CanWait delay t) : (delayed delay t).toNat = t.toNat + delay :=
  UInt64.toNat_ofNat_of_lt h

theorem elapsed_delayed (hstart : CanWait delay start) (hnow : CanWait delay now) :
    elapsed (delayed delay start) (delayed delay now) = elapsed start now := by
  rw [← UInt64.toNat_inj, toNat_elapsed, toNat_elapsed, toNat_delayed hstart, toNat_delayed hnow]
  omega

theorem canWait_after (h : t.toNat + delay + step.toNat < UInt64.size) :
    CanWait delay (after t step) := by
  unfold CanWait
  rw [toNat_after]
  omega

theorem after_delayed (h : t.toNat + delay + step.toNat < UInt64.size) :
    after (delayed delay t) step = delayed delay (after t step) := by
  have ht : CanWait delay t := Nat.lt_of_le_of_lt (Nat.le_add_right _ _) h
  rw [← UInt64.toNat_inj, toNat_after, toNat_delayed ht, toNat_delayed (canWait_after h),
    toNat_after]
  omega

end Time

open Time (CanWait)

def Sample.delayed (delay : Nat) (sample : Sample) : Sample :=
  { sample with time := Time.delayed delay sample.time }

namespace Gesture

def delayed (delay : Nat) (gesture : Gesture) : Gesture :=
  { gesture with time := Time.delayed delay gesture.time }

def Press.delayed (delay : Nat) (press : Press) : Press :=
  { press with since := Time.delayed delay press.since }

def delay (delay : Nat) : Revision where
  press := Press.delayed delay
  gesture := delayed delay
  id_press _ := rfl
  start_press _ := rfl
  last_press _ := rfl

namespace Signal

def time : Signal → UInt64
  | touch _ _ _ time => time
  | tick time => time

def delayed (delay : Nat) : Signal → Signal
  | touch phase id point time => touch phase id point (Time.delayed delay time)
  | tick time => tick (Time.delayed delay time)

end Signal

def Stage.CanWait (delay : Nat) (stage : Stage) : Prop :=
  ∀ press, stage.press? = some press → Time.CanWait delay press.since

theorem Stage.canWait_idle (delay : Nat) : idle.CanWait delay := nofun

theorem judges_delay {amount : Nat} {press : Press} {now : UInt64}
    (hsince : CanWait amount press.since) (hnow : CanWait amount now) :
    (delay amount).Judges press now (Time.delayed amount now) := by
  have helapsed : Time.elapsed (Time.delayed amount press.since) (Time.delayed amount now) =
      Time.elapsed press.since now := Time.elapsed_delayed hsince hnow
  refine ⟨helapsed, rfl, ?_⟩
  intro kind dx dy
  unfold Press.gesture delay delayed Press.delayed
  dsimp only
  rw [helapsed]

namespace Recognizer

variable {amount : Nat} (precision : Precision) {recognizer : Recognizer} {signal : Signal}

theorem canWait_step (h : recognizer.stage.CanWait amount) (hnow : CanWait amount signal.time) :
    (recognizer.step precision signal).1.stage.CanWait amount := by
  intro later hlater
  have hfollows := follows_step precision hlater
  generalize hstage : recognizer.stage = stage at hfollows
  cases hfollows with
  | begins hbegun => exact hnow
  | @goesOn press _ hpress hbegun =>
    rw [(press.isSame_follow precision signal).2]
    exact h press (hstage ▸ hpress)

theorem step_delayed (h : recognizer.stage.CanWait amount) (hnow : CanWait amount signal.time) :
    ((delay amount).recognizer recognizer).step precision (signal.delayed amount) =
      (delay amount).result (recognizer.step precision signal) := by
  apply Revision.step_result
  cases signal with
  | tick now => exact .tick fun press hpress => judges_delay (h press hpress) hnow
  | touch phase id point now =>
    refine .touch rfl fun press hpress => ⟨rfl, ?_, rfl, fun _ => rfl⟩
    have hsince : CanWait amount (press.observe precision point).since := h press hpress
    exact judges_delay hsince hnow

end Recognizer

end Gesture

end TouchPanel
