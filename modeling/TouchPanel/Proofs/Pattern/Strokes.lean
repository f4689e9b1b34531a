import TouchPanel.Proofs.Pattern.Changes
import TouchPanel.Proofs.Pattern.Cycle
import TouchPanel.Proofs.Pointer.Guard

/-!
This module contains the strokes that a pattern generates. Main statements: `Differ.exists_plays`
says what a whole cycle brings, and `Round.accepted_and_plays` that all of it passes the guard,
cycle after cycle.
-/

namespace TouchPanel

open Stroke (ofKey)

namespace Pattern

namespace Differ

section Cycle

open Pattern.Cycle (Runs)

variable {pattern : Pattern} {interval duration time : UInt64} {frames : List Frame}
  {differ : Differ} {isDown : Bool}

theorem plain_of_sublist {spots : List Spot} (h : (spots.map Spot.id).Sublist pattern.ids) :
    spots.length ≤ 2 ∧ (spots.map Spot.id).Nodup := by
  have hlength := h.length_le
  rw [List.length_map] at hlength
  exact ⟨Nat.le_trans hlength pattern.length_ids_le, pattern.nodup_ids.sublist h⟩

theorem apply_frame (hdown : differ.down.map Spot.id = if isDown then pattern.ids else [])
    (isLast : Bool) (hlast : isLast = decide (duration ≤ time)) :
    let result := differ.apply ⟨time, pattern.spotsAt time duration, isLast⟩
    (result.1.down.map Spot.id =
      if decide (time < pattern.liftTime duration) then pattern.ids else []) ∧
    ∀ id, phasesOf id result.2 =
      if id ∈ pattern.ids then turn isDown (time < pattern.liftTime duration) else [] := by
  intro result
  have hsub := pattern.sublist_ids time duration
  have hafter : result.1.down.map Spot.id =
      if decide (time < pattern.liftTime duration) then pattern.ids else [] := by
    unfold result
    rw [down_apply, hlast]
    by_cases hle : duration ≤ time
    . have hlift := UInt64.le_trans (pattern.liftTime_le duration) hle
      simp [hle, UInt64.not_lt.2 hlift]
    . simp only [hle, decide_false, Bool.false_eq_true, if_false, decide_eq_true_eq]
      exact map_id_spotsAt pattern (UInt64.not_le.1 hle)
  have hold : (differ.down.map Spot.id).Sublist pattern.ids := by
    rw [hdown]
    split
    . exact List.Sublist.refl _
    . exact List.nil_sublist _
  refine ⟨hafter, fun id => ?_⟩
  unfold result at hafter ⊢
  rw [phasesOf_apply (plain_of_sublist hold) (plain_of_sublist hsub) id, hafter, hdown]
  by_cases hid : id ∈ pattern.ids <;> cases isDown <;>
    cases decide (time < pattern.liftTime duration) <;> simp [hid, turn]

def turns (lift : UInt64) (isDown : Bool) : List Frame → List (List Phase)
  | [] => []
  | frame :: frames => turn isDown (frame.time < lift) :: turns lift (frame.time < lift) frames

theorem map_phasesOf_run (h : Runs pattern interval duration time frames)
    (hdown : differ.down.map Spot.id = if isDown then pattern.ids else []) (id : UInt32) :
    (differ.run frames).map (phasesOf id) =
      if id ∈ pattern.ids then turns (pattern.liftTime duration) isDown frames
      else List.replicate frames.length [] := by
  induction h generalizing differ isDown with
  | last =>
    have hlast : true = decide (duration ≤ duration) := by simp
    obtain ⟨-, hphases⟩ := apply_frame hdown true hlast
    unfold run
    dsimp only
    rw [List.map_cons, hphases id]
    by_cases hid : id ∈ pattern.ids <;> simp [hid, turns, run]
  | @next time frames hlt _ ih =>
    have hlast : false = decide (duration ≤ time) := by simp [UInt64.not_le.2 hlt]
    obtain ⟨hafter, hphases⟩ := apply_frame hdown false hlast
    unfold run
    dsimp only
    rw [List.map_cons, hphases id, ih hafter]
    by_cases hid : id ∈ pattern.ids <;> simp [hid, turns, List.replicate_succ]

theorem turns_of_le {lift : UInt64} (h : ∀ frame ∈ frames, lift ≤ frame.time) :
    turns lift false frames = List.replicate frames.length [] := by
  induction frames with
  | nil => rfl
  | cons frame frames ih =>
    obtain ⟨hframe, hrest⟩ := List.forall_mem_cons.1 h
    unfold turns
    rw [decide_eq_false (UInt64.not_lt.2 hframe), ih hrest, List.length_cons, List.replicate_succ]
    rfl

theorem turns_of_runs (h : Runs pattern interval duration time frames) :
    ∃ moves idle, frames.length = moves + 1 + idle ∧
      frames.findIdx (pattern.liftTime duration ≤ ·.time) = moves ∧
      turns (pattern.liftTime duration) true frames =
        List.replicate moves [.move] ++ [.up] :: List.replicate idle [] := by
  have hlift := pattern.liftTime_le duration
  induction h with
  | last =>
    refine ⟨0, 0, rfl, ?_, ?_⟩
    . simp [List.findIdx_cons, hlift]
    . simp [turns, UInt64.not_lt.2 hlift, turn]
  | @next time frames hlt hrest ih =>
    by_cases htime : time < pattern.liftTime duration
    . obtain ⟨moves, idle, hlength, hindex, hturns⟩ := ih
      refine ⟨moves + 1, idle, ?_, ?_, ?_⟩
      . rw [List.length_cons, hlength]
        omega
      . rw [List.findIdx_cons, hindex]
        simp [UInt64.not_le.2 htime]
      . unfold turns
        simp only [htime, decide_true]
        rw [hturns, List.replicate_succ]
        rfl
    . rw [UInt64.not_lt] at htime
      refine ⟨0, frames.length, ?_, ?_, ?_⟩
      . rw [List.length_cons]
        omega
      . simp [List.findIdx_cons, htime]
      . have hidle : ∀ frame ∈ frames, pattern.liftTime duration ≤ frame.time := by
          intro frame hmem
          have hlater := Cycle.le_time_of_runs hrest frame hmem
          rw [UInt64.le_iff_toNat_le] at hlater htime hlift ⊢
          rw [UInt64.lt_iff_toNat_lt] at hlt
          rw [Time.toNat_min_after] at hlater
          omega
        unfold turns
        rw [decide_eq_false (UInt64.not_lt.2 htime), turns_of_le hidle]
        rfl

/--
The frames of a whole cycle and what the contacts do in them: each contact of the pattern goes down
in the first frame, at the start of the cycle, moves, and lifts in the first frame at which it is
time to. Other contacts do nothing.
-/
structure Plays (pattern : Pattern) (duration : UInt64) (frames : List Frame)
    (changes : List (List (Phase × Spot))) (moves idle : Nat) : Prop where
  start : frames.head?.map Frame.time = some 0
  length : frames.length = 1 + moves + 1 + idle
  lift : frames.findIdx (pattern.liftTime duration ≤ ·.time) = 1 + moves
  phases : ∀ id, changes.map (phasesOf id) =
    if id ∈ pattern.ids then
      [.down] :: List.replicate moves [.move] ++ [.up] :: List.replicate idle []
    else List.replicate frames.length []

theorem exists_plays (h : Runs pattern interval duration 0 frames) (hduration : 0 < duration) :
    ∃ moves idle, Plays pattern duration frames (Differ.new.run frames) moves idle := by
  have hdown : Differ.new.down.map Spot.id = if false then pattern.ids else [] := rfl
  have hphases := map_phasesOf_run h hdown
  have hlift := pattern.liftTime_pos hduration
  cases h with
  | last => exact absurd hduration (UInt64.lt_irrefl 0)
  | next hlt hrest =>
    obtain ⟨moves, idle, hlength, hindex, hturns⟩ := turns_of_runs hrest
    refine ⟨moves, idle, rfl, ?_, ?_, ?_⟩
    . rw [List.length_cons, hlength]
      omega
    . rw [List.findIdx_cons, hindex]
      simp [UInt64.not_le.2 hlift, Nat.add_comm]
    . intro id
      rw [hphases id]
      unfold turns
      simp only [hlift, decide_true, hturns]
      rfl

theorem Plays.closed {changes : List (List (Phase × Spot))} {moves idle : Nat}
    (h : Plays pattern duration frames changes moves idle) (id : UInt32) :
    Stroke.Closed (changes.flatMap (phasesOf id)) := by
  rw [List.flatMap_def, h.phases id]
  split
  . rw [List.flatten_append, List.flatten_cons, List.flatten_cons, List.flatten_replicate_singleton,
      List.flatten_replicate_nil]
    unfold Stroke.Closed
    rw [Stroke.run_append, Stroke.run_append]
    change (Stroke.run true (List.replicate moves .move)).bind _ = _
    rw [Stroke.run_replicate_move]
    rfl
  . rw [List.flatten_replicate_nil]
    rfl

end Cycle

end Differ

structure Round where
  pattern : Pattern
  interval : UInt64
  duration : UInt64
  clock : Nat → UInt64

namespace Round

open Differ (phasesOf)

def frames (round : Round) : List Frame :=
  (Cycle.new round.pattern round.interval round.duration).frames

def changes (round : Round) : List (List (Phase × Spot)) :=
  Differ.new.run round.frames

def samples (origin : Origin) (round : Round) : List Sample :=
  round.changes.zipIdx.flatMap fun (changes, index) => changes.map fun (phase, spot) =>
    Sample.clamped phase spot.id spot.x spot.y (round.clock index) origin

theorem ofKey_map_clamped (key : Key) (changes : List (Phase × Spot)) (time : UInt64)
    (origin : Origin) :
    ofKey key (changes.map fun (phase, spot) =>
        Sample.clamped phase spot.id spot.x spot.y time origin) =
      if origin = key.origin then phasesOf key.id changes else [] := by
  induction changes with
  | nil => exact (ite_self []).symm
  | cons change changes ih =>
    obtain ⟨phase, spot⟩ := change
    obtain ⟨keyOrigin, id⟩ := key
    rw [List.map_cons, Stroke.ofKey_cons, ih]
    unfold phasesOf
    by_cases horigin : origin = keyOrigin <;> by_cases hid : spot.id = id <;>
      simp [Sample.key, Sample.clamped, horigin, hid]

theorem exists_plays (round : Round) :
    ∃ moves idle,
      Differ.Plays round.pattern (max round.duration 1) round.frames round.changes moves idle :=
  Differ.exists_plays (Cycle.runs_frames round.pattern round.interval round.duration)
    (Time.max_one_pos round.duration)

/--
The samples of a contact are its changes in the frames, one frame after another.
-/
theorem ofKey_samples (origin : Origin) (round : Round) (key : Key) :
    ofKey key (round.samples origin) =
      if origin = key.origin then round.changes.flatMap (phasesOf key.id) else [] := by
  have hchanges : round.changes.zipIdx.flatMap (fun item => phasesOf key.id item.1) =
      round.changes.flatMap (phasesOf key.id) := by
    rw [← List.flatMap_map, List.zipIdx_map_fst]
  unfold samples
  rw [Stroke.ofKey_flatMap]
  simp only [ofKey_map_clamped]
  split
  . exact hchanges
  . exact List.flatMap_eq_nil_iff.2 fun _ _ => rfl

theorem closed_samples (origin : Origin) (round : Round) (key : Key) :
    Stroke.Closed (ofKey key (round.samples origin)) := by
  obtain ⟨moves, idle, hplays⟩ := round.exists_plays
  rw [ofKey_samples]
  split
  . exact hplays.closed key.id
  . rfl

theorem closed_flatMap_samples (origin : Origin) (rounds : List Round) (key : Key) :
    Stroke.Closed (ofKey key (rounds.flatMap (samples origin))) := by
  rw [Stroke.ofKey_flatMap]
  induction rounds with
  | nil => rfl
  | cons round rounds ih =>
    have hround := closed_samples origin round key
    unfold Stroke.Closed at hround ih ⊢
    rw [List.flatMap_cons, Stroke.run_append, hround]
    exact ih

/--
A guard turns nothing away of the cycles of patterns that follow one another and adds nothing to
them, and after each cycle no contact is down. The samples of a cycle, which comes to its last frame,
are what the contacts do in its frames, and there every contact of the pattern makes one stroke.
-/
theorem accepted_and_plays (origin : Origin) (rounds : List Round) :
    Guard.empty.verdicts (rounds.flatMap (samples origin)) =
        (rounds.flatMap (samples origin)).map .accepted ∧
      (∀ count, (Guard.empty.run ((rounds.take count).flatMap (samples origin))).1 = .empty) ∧
      ∀ round : Round,
        (∀ key, ofKey key (round.samples origin) =
          if origin = key.origin then round.changes.flatMap (phasesOf key.id) else []) ∧
        (∀ more, (Cycle.new round.pattern round.interval round.duration).take
          (round.frames.length + more) = round.frames) ∧
        ∃ moves idle, Differ.Plays round.pattern (max round.duration 1) round.frames round.changes
          moves idle := by
  refine ⟨?_, fun count => ?_, fun round => ⟨?_, ?_, ?_⟩⟩
  . exact (Guard.accepted_of_closed (closed_flatMap_samples origin rounds)).1
  . exact (Guard.accepted_of_closed (closed_flatMap_samples origin (rounds.take count))).2
  . exact ofKey_samples origin round
  . exact Cycle.take_frames round.pattern round.interval round.duration
  . exact round.exists_plays

end Round

end Pattern

end TouchPanel
