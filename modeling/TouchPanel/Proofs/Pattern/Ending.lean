import Mathlib.Algebra.Order.Floor.Div
import TouchPanel.Proofs.Pattern.Cycle

/-!
This module contains what a cycle of a pattern answers when it is asked for the next frame again and
again (`Cycle.ends_new`): the frames of one whole cycle, of which there is one for each interval
that begins before the duration and one more, and nothing from then on.

Main statement beside it: `Cycle.answer_of_runs`, from any time of a cycle on.
-/

namespace TouchPanel.Pattern.Cycle

/--
The cycle after it was asked for the next frame. Without one it stays as it is.
-/
def advance (cycle : Cycle) : Cycle :=
  match cycle.next? with
  | none => cycle
  | some (_, cycle) => cycle

/--
What a cycle answers when it is asked for the next frame, after it was asked so many times before.
-/
def answer (cycle : Cycle) : Nat → Option Frame
  | 0 => cycle.next?.map Prod.fst
  | asked + 1 => cycle.advance.answer asked

/--
The answers of a cycle: frames at the multiples of the interval below the duration, then one at the
duration, which alone is the last, and none from then on. Multiples are taken among the natural
numbers, where nothing wraps around.
-/
structure Ends (pattern : Pattern) (interval duration : UInt64) (cycle : Cycle) : Prop where
  answers : ∀ asked, cycle.answer asked = cycle.frames[asked]?
  ended : ∀ asked, cycle.answer asked = none ↔ duration.toNat ⌈/⌉ interval.toNat < asked
  length : cycle.frames.length = duration.toNat ⌈/⌉ interval.toNat + 1
  times : cycle.frames.map (·.time.toNat) =
    (List.range (duration.toNat ⌈/⌉ interval.toNat)).map (· * interval.toNat) ++ [duration.toNat]
  multiples : ∀ time, time ∈ cycle.frames.dropLast.map (·.time.toNat) ↔
    interval.toNat ∣ time ∧ time < duration.toNat
  increasing : cycle.frames.Pairwise (·.time < ·.time)
  isLast : cycle.frames.map Frame.isLast =
    List.replicate (duration.toNat ⌈/⌉ interval.toNat) false ++ [true]
  spots : ∀ frame ∈ cycle.frames, frame.spots = pattern.spotsAt frame.time duration

variable {pattern : Pattern} {interval duration time : UInt64} {frames : List Frame}

theorem answer_of_ended (cycle : Cycle) (h : cycle.upcoming = none) (asked : Nat) :
    cycle.answer asked = none := by
  induction asked with
  | zero =>
    unfold answer
    rw [next?_of_ended cycle h]
    rfl
  | succ asked ih =>
    unfold answer advance
    rw [next?_of_ended cycle h]
    exact ih

theorem answer_of_runs (h : Runs pattern interval duration time frames) (asked : Nat) :
    answer ⟨pattern, interval, duration, some time⟩ asked = frames[asked]? := by
  induction h generalizing asked with
  | last =>
    cases asked with
    | zero =>
      unfold answer
      rw [next?_of_eq]
      rfl
    | succ asked =>
      unfold answer advance
      rw [next?_of_eq]
      exact answer_of_ended _ rfl asked
  | next hlt _ ih =>
    cases asked with
    | zero =>
      unfold answer
      rw [next?_of_lt pattern interval hlt]
      rfl
    | succ asked =>
      unfold answer advance
      rw [next?_of_lt pattern interval hlt, List.getElem?_cons_succ]
      exact ih asked

theorem pairwise_time_of_runs (hinterval : 0 < interval)
    (h : Runs pattern interval duration time frames) : frames.Pairwise (·.time < ·.time) := by
  induction h with
  | last => exact List.pairwise_singleton _ _
  | @next time frames hlt hrest ih =>
    refine List.pairwise_cons.2 ⟨fun frame hmem => ?_, ih⟩
    have hlater := le_time_of_runs hrest frame hmem
    change time < frame.time
    rw [UInt64.le_iff_toNat_le, Time.toNat_min_after] at hlater
    rw [UInt64.lt_iff_toNat_lt] at hinterval hlt ⊢
    rw [UInt64.toNat_zero] at hinterval
    omega

theorem exists_map_isLast_of_runs (h : Runs pattern interval duration time frames) :
    ∃ count, frames.map Frame.isLast = List.replicate count false ++ [true] := by
  induction h with
  | last => exact ⟨0, rfl⟩
  | next _ _ ih =>
    obtain ⟨count, hcount⟩ := ih
    refine ⟨count + 1, ?_⟩
    rw [List.map_cons, hcount]
    rfl

theorem spots_of_runs (h : Runs pattern interval duration time frames) :
    ∀ frame ∈ frames, frame.spots = pattern.spotsAt frame.time duration := by
  induction h with
  | last => exact List.forall_mem_singleton.2 rfl
  | next _ _ ih => exact List.forall_mem_cons.2 ⟨rfl, ih⟩

theorem length_frames (pattern : Pattern) (interval duration : UInt64) :
    (new pattern interval duration).frames.length =
      (max duration 1).toNat ⌈/⌉ (max interval 1).toNat + 1 := by
  have hlength := congrArg List.length (map_time_frames pattern interval duration)
  rw [List.length_map, List.length_append, List.length_map, List.length_range] at hlength
  exact hlength

theorem map_isLast_frames (pattern : Pattern) (interval duration : UInt64) :
    (new pattern interval duration).frames.map Frame.isLast =
      List.replicate ((max duration 1).toNat ⌈/⌉ (max interval 1).toNat) false ++ [true] := by
  obtain ⟨count, hlast⟩ := exists_map_isLast_of_runs (runs_frames pattern interval duration)
  have hlength := congrArg List.length hlast
  rw [List.length_map, length_frames, List.length_append, List.length_replicate] at hlength
  rw [hlast, Nat.add_right_cancel hlength]

theorem mem_map_range_ceilDiv_iff {step bound : Nat} (hstep : 0 < step) (number : Nat) :
    number ∈ (List.range (bound ⌈/⌉ step)).map (· * step) ↔ step ∣ number ∧ number < bound := by
  have hcount (count : Nat) : count ∈ List.range (bound ⌈/⌉ step) ↔ step * count < bound := by
    rw [List.mem_range, ← Nat.not_le, ceilDiv_le_iff_le_mul hstep, Nat.not_le]
  rw [List.mem_map]
  constructor
  . rintro ⟨count, hmem, rfl⟩
    rw [Nat.mul_comm]
    exact ⟨Nat.dvd_mul_right _ _, (hcount count).1 hmem⟩
  . rintro ⟨⟨count, rfl⟩, hlt⟩
    exact ⟨count, (hcount count).2 hlt, Nat.mul_comm _ _⟩

/--
A cycle ends, for any interval and any duration, where times of zero count as one.
-/
theorem ends_new (pattern : Pattern) (interval duration : UInt64) :
    Ends pattern (max interval 1) (max duration 1) (new pattern interval duration) := by
  have hruns := runs_frames pattern interval duration
  have htimes := map_time_frames pattern interval duration
  have hlength := length_frames pattern interval duration
  have hinterval := Time.max_one_pos interval
  have hanswers := answer_of_runs hruns
  constructor
  case answers => exact hanswers
  case ended =>
    intro asked
    rw [← Nat.add_one_le_iff, ← hlength, ← List.getElem?_eq_none_iff, ← hanswers]
    rfl
  case length => exact hlength
  case times => exact htimes
  case multiples =>
    intro time
    rw [List.map_dropLast, htimes, List.dropLast_concat]
    exact mem_map_range_ceilDiv_iff (UInt64.lt_iff_toNat_lt.1 hinterval) time
  case increasing => exact pairwise_time_of_runs hinterval hruns
  case isLast => exact map_isLast_frames pattern interval duration
  case spots => exact spots_of_runs hruns

example : (List.range 4).map (fun asked =>
    ((new .swipe 0xfffffffffffffffe 0xffffffffffffffff).answer asked).map fun frame =>
      (frame.time, frame.isLast)) =
    [some (0, false), some (0xfffffffffffffffe, false), some (0xffffffffffffffff, true), none] := by
  decide

end TouchPanel.Pattern.Cycle
