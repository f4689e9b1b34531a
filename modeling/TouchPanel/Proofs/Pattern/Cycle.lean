import Mathlib.Algebra.Order.Floor.Div
import TouchPanel.Pattern.Cycle

/-!
This module contains the frames of one whole cycle of a pattern, from a time on to the frame that
stands at the duration (`Cycle.Runs`).

Main statements: `Cycle.take_frames` says that a cycle has these frames and no others, and
`Cycle.map_time_frames` at which times they stand.
-/

namespace TouchPanel

namespace Time

@[simp]
theorem toNat_min (a b : UInt64) : (min a b).toNat = min a.toNat b.toNat := by
  change (if a ≤ b then a else b).toNat = _
  split
  . next h => exact (Nat.min_eq_left (UInt64.le_iff_toNat_le.1 h)).symm
  . next h =>
    rw [UInt64.not_le] at h
    exact (Nat.min_eq_right (Nat.le_of_lt (UInt64.lt_iff_toNat_lt.1 h))).symm

@[simp]
theorem toNat_max (a b : UInt64) : (max a b).toNat = max a.toNat b.toNat := by
  change (if a ≤ b then b else a).toNat = _
  split
  . next h => exact (Nat.max_eq_right (UInt64.le_iff_toNat_le.1 h)).symm
  . next h =>
    rw [UInt64.not_le] at h
    exact (Nat.max_eq_left (Nat.le_of_lt (UInt64.lt_iff_toNat_lt.1 h))).symm

theorem max_one_pos (t : UInt64) : 0 < max t 1 := by
  simp only [UInt64.lt_iff_toNat_lt, toNat_max, UInt64.toNat_zero, UInt64.toNat_one]
  omega

/--
That times do not grow beyond the last one is not seen below a bound.
-/
theorem toNat_min_after (t step bound : UInt64) :
    (min (after t step) bound).toNat = min (t.toNat + step.toNat) bound.toNat := by
  have hbound := bound.toNat_lt
  rw [toNat_min, toNat_after, UInt64.size]
  omega

end Time

namespace Pattern

def ids (pattern : Pattern) : List UInt32 :=
  if pattern = pinch then [0, 1] else [0]

/--
The time from which on no contact is down, in a cycle of the given duration.
-/
def liftTime (pattern : Pattern) (duration : UInt64) : UInt64 :=
  if pattern = tap then min tapTime duration else duration

theorem liftTime_le (pattern : Pattern) (duration : UInt64) :
    pattern.liftTime duration ≤ duration := by
  unfold liftTime
  split
  . exact Std.min_le_right
  . exact UInt64.le_refl _

theorem liftTime_pos (pattern : Pattern) {duration : UInt64} (h : 0 < duration) :
    0 < pattern.liftTime duration := by
  unfold liftTime
  split
  . have htap : tapTime.toNat = 80 := rfl
    simp only [UInt64.lt_iff_toNat_lt, Time.toNat_min, UInt64.toNat_zero, htap] at h ⊢
    omega
  . exact h

theorem map_id_spotsAtPart (pattern : Pattern) (part : Float) :
    (pattern.spotsAtPart part).map Spot.id = pattern.ids := by
  cases pattern <;> rfl

theorem nodup_ids (pattern : Pattern) : pattern.ids.Nodup := by
  cases pattern <;> decide

theorem length_ids_le (pattern : Pattern) : pattern.ids.length ≤ 2 := by
  cases pattern <;> decide

theorem sublist_ids (pattern : Pattern) (time duration : UInt64) :
    ((pattern.spotsAt time duration).map Spot.id).Sublist pattern.ids := by
  unfold spotsAt
  dsimp only
  split
  . exact List.nil_sublist _
  . exact map_id_spotsAtPart pattern _ ▸ List.Sublist.refl _

theorem map_id_spotsAt (pattern : Pattern) {time duration : UInt64} (h : time < duration) :
    (pattern.spotsAt time duration).map Spot.id =
      if time < pattern.liftTime duration then pattern.ids else [] := by
  have hduration : max duration 1 = duration := by
    simp only [← UInt64.toNat_inj, UInt64.lt_iff_toNat_lt, Time.toNat_max, UInt64.toNat_one] at h ⊢
    omega
  have htime : min time duration = time := by
    simp only [← UInt64.toNat_inj, UInt64.lt_iff_toNat_lt, Time.toNat_min] at h ⊢
    omega
  unfold spotsAt liftTime
  dsimp only
  rw [hduration, htime]
  by_cases htap : pattern = tap
  . by_cases hlift : min tapTime duration ≤ time
    . rw [if_pos ⟨htap, hlift⟩, if_pos htap, if_neg (UInt64.not_lt.2 hlift)]
      rfl
    . rw [if_neg (hlift ·.2), if_pos htap, if_pos (UInt64.not_le.1 hlift), map_id_spotsAtPart]
  . rw [if_neg (htap ·.1), if_neg htap, if_pos h, map_id_spotsAtPart]

namespace Cycle

/--
The frames of a cycle from a time on, each one interval after the one before but the last, which
stands at the duration.
-/
inductive Runs (pattern : Pattern) (interval duration : UInt64) : UInt64 → List Frame → Prop where
  | last : Runs pattern interval duration duration
      [⟨duration, pattern.spotsAt duration duration, true⟩]
  | next {time : UInt64} {frames : List Frame} (hlt : time < duration)
      (hrest : Runs pattern interval duration (min (Time.after time interval) duration) frames) :
      Runs pattern interval duration time (⟨time, pattern.spotsAt time duration, false⟩ :: frames)

/--
The frames of a whole cycle, of which there is at most one for each time up to the duration.
-/
def frames (cycle : Cycle) : List Frame :=
  cycle.take (cycle.duration.toNat + 1)

variable {pattern : Pattern} {interval duration time : UInt64}

theorem next?_of_ended (cycle : Cycle) (h : cycle.upcoming = none) : cycle.next? = none := by
  unfold next?
  rw [h]
  rfl

theorem next?_of_eq (pattern : Pattern) (interval duration : UInt64) :
    next? ⟨pattern, interval, duration, some duration⟩ =
      some (⟨duration, pattern.spotsAt duration duration, true⟩,
        ⟨pattern, interval, duration, none⟩) := by
  unfold next?
  simp only [Option.map_some, UInt64.le_refl, decide_true, if_true]

theorem next?_of_lt (pattern : Pattern) (interval : UInt64) (h : time < duration) :
    next? ⟨pattern, interval, duration, some time⟩ =
      some (⟨time, pattern.spotsAt time duration, false⟩,
        ⟨pattern, interval, duration, some (min (Time.after time interval) duration)⟩) := by
  have hlast : decide (duration ≤ time) = false := by
    rw [decide_eq_false_iff_not, UInt64.not_le]
    exact h
  unfold next?
  simp only [Option.map_some, hlast, Bool.false_eq_true, if_false]

theorem take_of_ended (cycle : Cycle) (h : cycle.upcoming = none) (count : Nat) :
    cycle.take count = [] := by
  cases count with
  | zero => rfl
  | succ count =>
    unfold take
    rw [next?_of_ended cycle h]

theorem take_of_runs {frames : List Frame} (h : Runs pattern interval duration time frames)
    (more : Nat) :
    take ⟨pattern, interval, duration, some time⟩ (frames.length + more) = frames := by
  induction h with
  | last =>
    rw [List.length_singleton, Nat.add_comm]
    unfold take
    rw [next?_of_eq]
    dsimp only
    rw [take_of_ended _ rfl]
  | @next time frames hlt _ ih =>
    rw [List.length_cons, Nat.add_right_comm]
    unfold take
    rw [next?_of_lt pattern interval hlt]
    dsimp only
    rw [ih]

/--
A cycle comes to its last frame, since an interval is not zero.
-/
theorem exists_runs (pattern : Pattern) (hinterval : 0 < interval) (h : time ≤ duration) :
    ∃ frames, Runs pattern interval duration time frames ∧
      frames.length ≤ duration.toNat - time.toNat + 1 := by
  induction hleft : duration.toNat - time.toNat using Nat.strongRecOn generalizing time with
  | _ left ih =>
    by_cases hlt : time < duration
    . have hafter := Time.toNat_min_after time interval duration
      rw [UInt64.lt_iff_toNat_lt] at hlt hinterval
      rw [UInt64.toNat_zero] at hinterval
      obtain ⟨frames, hruns, hlength⟩ :=
        ih (duration.toNat - (min (Time.after time interval) duration).toNat) (by omega)
          Std.min_le_right rfl
      refine ⟨_, .next (UInt64.lt_iff_toNat_lt.2 hlt) hruns, ?_⟩
      rw [List.length_cons]
      omega
    . obtain rfl : time = duration := UInt64.le_antisymm h (UInt64.not_lt.1 hlt)
      exact ⟨_, .last, Nat.le_add_left ..⟩

theorem runs_frames (pattern : Pattern) (interval duration : UInt64) :
    Runs pattern (max interval 1) (max duration 1) 0 (new pattern interval duration).frames := by
  obtain ⟨frames, hruns, hlength⟩ :=
    exists_runs pattern (Time.max_one_pos interval) (UInt64.zero_le (a := max duration 1))
  have hcount : (max duration 1).toNat + 1 =
      frames.length + ((max duration 1).toNat + 1 - frames.length) := by
    rw [UInt64.toNat_zero] at hlength
    omega
  have hframes : (new pattern interval duration).frames = frames := by
    unfold Cycle.frames new
    dsimp only
    rw [hcount]
    exact take_of_runs hruns _
  rw [hframes]
  exact hruns

theorem take_frames (pattern : Pattern) (interval duration : UInt64) (more : Nat) :
    (new pattern interval duration).take ((new pattern interval duration).frames.length + more) =
      (new pattern interval duration).frames :=
  take_of_runs (runs_frames pattern interval duration) more

theorem le_time_of_runs {frames : List Frame} (h : Runs pattern interval duration time frames) :
    ∀ frame ∈ frames, time ≤ frame.time := by
  induction h with
  | last =>
    intro frame hmem
    rw [List.mem_singleton] at hmem
    subst hmem
    exact UInt64.le_refl _
  | @next time frames hlt _ ih =>
    have hlater : time ≤ min (Time.after time interval) duration := by
      rw [UInt64.lt_iff_toNat_lt] at hlt
      rw [UInt64.le_iff_toNat_le, Time.toNat_min_after]
      omega
    intro frame hmem
    rcases List.mem_cons.1 hmem with rfl | hmem
    . exact UInt64.le_refl _
    . exact UInt64.le_trans hlater (ih frame hmem)

theorem map_time_of_runs {frames : List Frame} (hinterval : 0 < interval)
    (h : Runs pattern interval duration time frames) :
    frames.map (·.time.toNat) =
      (List.range ((duration.toNat - time.toNat) ⌈/⌉ interval.toNat)).map
        (time.toNat + · * interval.toNat) ++ [duration.toNat] := by
  rw [UInt64.lt_iff_toNat_lt, UInt64.toNat_zero] at hinterval
  induction h with
  | last =>
    rw [Nat.sub_self, zero_ceilDiv]
    rfl
  | @next time frames hlt hrest ih =>
    rw [UInt64.lt_iff_toNat_lt] at hlt
    rw [List.map_cons, ih, Time.toNat_min_after]
    by_cases hnear : duration.toNat ≤ time.toNat + interval.toNat
    . rw [Nat.min_eq_right hnear, Nat.sub_self, zero_ceilDiv]
      have hone : (duration.toNat - time.toNat) ⌈/⌉ interval.toNat = 1 := by
        rw [Nat.ceilDiv_eq_add_pred_div]
        apply Nat.div_eq_of_lt_le <;> omega
      rw [hone]
      simp
    . have hnext : (duration.toNat - time.toNat) ⌈/⌉ interval.toNat =
          (duration.toNat - (time.toNat + interval.toNat)) ⌈/⌉ interval.toNat + 1 := by
        rw [Nat.ceilDiv_eq_add_pred_div, Nat.ceilDiv_eq_add_pred_div,
          ← Nat.add_div_right _ hinterval]
        congr 1
        omega
      rw [Nat.min_eq_left (by omega), hnext, List.range_succ_eq_map]
      simp only [List.map_cons, List.map_map, Nat.zero_mul, Nat.add_zero, List.cons_append]
      congr 2
      apply List.map_congr_left
      intro k _
      simp only [Function.comp_apply, Nat.succ_mul]
      omega

/--
The frames stand at the multiples of the interval below the duration, and the last one at the
duration itself.
-/
theorem map_time_frames (pattern : Pattern) (interval duration : UInt64) :
    (new pattern interval duration).frames.map (·.time.toNat) =
      (List.range ((max duration 1).toNat ⌈/⌉ (max interval 1).toNat)).map
        (· * (max interval 1).toNat) ++ [(max duration 1).toNat] := by
  rw [map_time_of_runs (Time.max_one_pos interval) (runs_frames pattern interval duration)]
  simp only [UInt64.toNat_zero, Nat.sub_zero, Nat.zero_add]

end Cycle

end Pattern

end TouchPanel
