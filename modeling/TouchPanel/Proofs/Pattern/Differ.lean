import TouchPanel.Proofs.Pattern.Changes
import TouchPanel.Proofs.Pointer.Stroke

/-!
This module contains what frames bring whose contacts come and go in any way, with last frames
anywhere among them: each contact makes strokes, and each frame says of each contact what it does
between where it was and where it is (`Differ.diffs_run`).

Main statement beside it: `Differ.run_phasesOf_run`, for the phases of one contact.
-/

namespace TouchPanel.Pattern.Differ

def downAfter (frames : List Frame) : List Spot :=
  match frames.getLast? with
  | none => []
  | some frame => if frame.isLast then [] else frame.spots

def after (differ : Differ) (frames : List Frame) : Differ :=
  frames.foldl (fun differ frame => (differ.apply frame).1) differ

variable {frames : List Frame} {frame : Frame} {differ : Differ}

theorem run_append (differ : Differ) (frames more : List Frame) :
    differ.run (frames ++ more) = differ.run frames ++ (differ.after frames).run more := by
  induction frames generalizing differ with
  | nil => rfl
  | cons frame frames ih =>
    change (differ.apply frame).2 :: (differ.apply frame).1.run (frames ++ more) = _
    rw [ih]
    rfl

theorem run_singleton (differ : Differ) (frame : Frame) :
    differ.run [frame] = [(differ.apply frame).2] := rfl

theorem down_after (frames : List Frame) : (new.after frames).down = downAfter frames := by
  cases frames using List.reverseRecOn with
  | nil => rfl
  | append_singleton frames frame =>
    unfold after downAfter
    rw [List.foldl_append, List.getLast?_concat]
    exact down_apply _ frame

theorem isPlain_down (h : ∀ frame ∈ frames, IsPlain frame) :
    (downAfter frames).length ≤ 2 ∧ ((downAfter frames).map Spot.id).Nodup := by
  unfold downAfter
  cases hlast : frames.getLast? with
  | none => exact ⟨Nat.zero_le 2, List.nodup_nil⟩
  | some frame =>
    dsimp only
    split
    . exact ⟨Nat.zero_le 2, List.nodup_nil⟩
    . exact h frame (List.mem_of_getLast? hlast)

theorem run_phasesOf_apply
    (hdown : differ.down.length ≤ 2 ∧ (differ.down.map Spot.id).Nodup) (hframe : IsPlain frame)
    (id : UInt32) :
    Stroke.run (id ∈ differ.down.map Spot.id) (phasesOf id (differ.apply frame).2) =
      some (decide (id ∈ (differ.apply frame).1.down.map Spot.id)) := by
  rw [phasesOf_apply hdown hframe id]
  generalize decide (id ∈ differ.down.map Spot.id) = before
  generalize decide (id ∈ (differ.apply frame).1.down.map Spot.id) = later
  cases before <;> cases later <;> rfl

theorem run_phasesOf_run (h : ∀ frame ∈ frames, IsPlain frame) (id : UInt32) :
    Stroke.run false (phasesOf id (new.run frames).flatten) =
      some (decide (id ∈ (downAfter frames).map Spot.id)) := by
  induction frames using List.reverseRecOn with
  | nil => rfl
  | append_singleton frames frame ih =>
    have hframes : ∀ frame ∈ frames, IsPlain frame := fun other hmem =>
      h other (List.mem_append_left _ hmem)
    have hframe : IsPlain frame := h frame List.mem_concat_self
    have hdown := isPlain_down hframes
    rw [← down_after] at hdown
    have hstep := run_phasesOf_apply hdown hframe id
    rw [run_append, run_singleton, List.flatten_append, phasesOf_append, Stroke.run_append,
      ih hframes, Option.bind_some, ← down_after, List.flatten_singleton, hstep, ← down_after]
    unfold after
    rw [List.foldl_append]
    rfl

/--
Frames that have two contacts at most, told apart by their ids, bring strokes of each contact. Each
frame brings for each contact exactly what it does between where it was down before and where the
frame has it, what lifts before all else, and leaves down the contacts that it has, or none if it is
a last one.
-/
theorem diffs_run (h : ∀ frame ∈ frames, IsPlain frame) :
    (∀ id, Stroke.Follows (phasesOf id (new.run frames).flatten)) ∧
      ∀ before frame later, frames = before ++ frame :: later →
        ∃ changes rest, new.run frames = new.run before ++ changes :: rest ∧
          new.run (before ++ [frame]) = new.run before ++ [changes] ∧
          (∀ id, changes.filter (fun change => change.2.id == id) =
            changesOf frame.isLast (find? (downAfter before) id) (find? frame.spots id)) ∧
          (changes.Pairwise fun change later => later.1 = .up → change.1 = .up) ∧
          ∀ id, Stroke.IsOpen (phasesOf id (new.run (before ++ [frame])).flatten) ↔
            frame.isLast = false ∧ id ∈ frame.spots.map Spot.id := by
  refine ⟨fun id => Stroke.follows_of_run (run_phasesOf_run h id), ?_⟩
  rintro before frame later rfl
  have hbefore : ∀ frame ∈ before, IsPlain frame := fun other hmem =>
    h other (List.mem_append_left _ hmem)
  have hframe : IsPlain frame := h frame (by simp)
  have hdown := isPlain_down hbefore
  rw [← down_after] at hdown
  refine ⟨_, _, run_append new before (frame :: later), run_append new before [frame], ?_, ?_, ?_⟩
  . intro id
    rw [← down_after]
    exact filter_apply hdown hframe id
  . exact pairwise_apply hdown hframe
  . intro id
    have hupto : ∀ other ∈ before ++ [frame], IsPlain other := fun other hmem =>
      h other (by simp at hmem ⊢; tauto)
    rw [Stroke.isOpen_iff_of_run (run_phasesOf_run hupto id), decide_eq_true_iff]
    unfold downAfter
    rw [List.getLast?_concat]
    cases hlast : frame.isLast <;> simp [hlast]

/--
Two contacts come, one of them goes while the other changes its place and a third one comes, a last
frame has the third and a new one, and the first contact comes again.
-/
theorem diffs_run_again :
    let frames : List Frame :=
      [⟨0, [⟨0, 0, 0⟩, ⟨1, 1, 1⟩], false⟩, ⟨1, [⟨1, 0, 1⟩, ⟨2, 1, 0⟩], false⟩,
        ⟨2, [⟨3, 0, 0⟩, ⟨2, 1, 1⟩], true⟩, ⟨3, [⟨0, 0, 0⟩], false⟩]
    (∀ frame ∈ frames, IsPlain frame) ∧
      ((new.run frames).map fun changes => changes.map fun change => (change.1, change.2.id)) =
        [[(.down, 0), (.down, 1)], [(.up, 0), (.move, 1), (.down, 2)], [(.up, 1), (.up, 2)],
          [(.down, 0)]] ∧
      ∀ id, Stroke.Follows (phasesOf id (new.run frames).flatten) := by
  intro frames
  have hframes : ∀ frame ∈ frames, IsPlain frame := by decide
  exact ⟨hframes, by decide, (diffs_run hframes).1⟩

end TouchPanel.Pattern.Differ
