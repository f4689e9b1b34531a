import TouchPanel.Pattern.Differ

/-!
This module contains what the contacts do in one frame. Main statements: `Differ.filter_apply` says
what each contact does between where it was and where the frame has it, `Differ.phasesOf_apply` says
the same of the phases alone, and `Differ.pairwise_apply` that what lifts comes first.
-/

namespace TouchPanel.Pattern.Differ

/--
What a contact does between where it was before a frame and where the frame has it. In a last frame
it lifts, and a contact that is new there does nothing.
-/
def changesOf (isLast : Bool) : Option Spot → Option Spot → List (Phase × Spot)
  | none, none => []
  | none, some spot => if isLast then [] else [(.down, spot)]
  | some old, none => [(.up, old)]
  | some _, some spot => [(if isLast then .up else .move, spot)]

def turn : Bool → Bool → List Phase
  | false, false => []
  | false, true => [.down]
  | true, true => [.move]
  | true, false => [.up]

def phasesOf (id : UInt32) (changes : List (Phase × Spot)) : List Phase :=
  (changes.filter fun change => change.2.id == id).map Prod.fst

theorem phasesOf_append (id : UInt32) (changes more : List (Phase × Spot)) :
    phasesOf id (changes ++ more) = phasesOf id changes ++ phasesOf id more := by
  unfold phasesOf
  rw [List.filter_append, List.map_append]

theorem map_fst_changesOf (isLast : Bool) (before now : Option Spot) :
    (changesOf isLast before now).map Prod.fst =
      turn before.isSome (!isLast && now.isSome) := by
  cases before <;> cases now <;> cases isLast <;> rfl

theorem isSome_find? (spots : List Spot) (id : UInt32) :
    (find? spots id).isSome = true ↔ id ∈ spots.map Spot.id := by
  unfold find?
  rw [List.find?_isSome, List.mem_map]
  simp only [beq_iff_eq]

theorem map_id_filter_isNone (down spots : List Spot) :
    (down.filter fun spot => (find? spots spot.id).isNone).map Spot.id =
      (down.map Spot.id).filter (· ∉ spots.map Spot.id) := by
  rw [List.filter_map]
  congr 1
  apply List.filter_congr
  intro spot _
  simp only [Function.comp_apply, ← isSome_find?]
  cases find? spots spot.id <;> rfl

theorem id_getD_find? (spots : List Spot) (spot : Spot) :
    ((find? spots spot.id).getD spot).id = spot.id := by
  cases hfound : find? spots spot.id with
  | none => rfl
  | some found =>
    have hid := List.find?_some hfound
    rw [beq_iff_eq] at hid
    exact hid

/--
The frame has two contacts at most, told apart by their ids.
-/
def IsPlain (frame : Frame) : Prop :=
  frame.spots.length ≤ 2 ∧ (frame.spots.map Spot.id).Nodup

instance (frame : Frame) : Decidable (IsPlain frame) := inferInstanceAs (Decidable (_ ∧ _))

variable {differ : Differ} {frame : Frame}

theorem down_apply (differ : Differ) (frame : Frame) :
    (differ.apply frame).1.down = if frame.isLast then [] else frame.spots := by
  unfold apply
  split <;> rfl

theorem filter_map (change : Spot → Phase × Spot) {spots : List Spot}
    (hnodup : (spots.map Spot.id).Nodup) (hid : ∀ spot, (change spot).2.id = spot.id)
    (id : UInt32) :
    (spots.map change).filter (fun change => change.2.id == id) =
      ((find? spots id).map change).toList := by
  induction spots with
  | nil => rfl
  | cons spot rest ih =>
    rw [List.map_cons, List.nodup_cons] at hnodup
    have hrest := ih hnodup.2
    unfold find? at hrest ⊢
    rw [List.map_cons]
    by_cases hspot : spot.id = id
    . have hnone : rest.find? (fun spot => spot.id == id) = none := by
        rw [List.find?_eq_none]
        intro other hmem hother
        rw [beq_iff_eq] at hother
        apply hnodup.1
        rw [hspot, ← hother]
        exact List.mem_map_of_mem hmem
      rw [hnone] at hrest
      rw [List.filter_cons_of_pos (by simp [hid, hspot]), hrest,
        List.find?_cons_of_pos (by simp [hspot])]
      rfl
    . rw [List.filter_cons_of_neg (by simp [hid, hspot]), hrest,
        List.find?_cons_of_neg (by simp [hspot])]

theorem find?_gone (down spots : List Spot) (id : UInt32) :
    find? (down.filter fun spot => (find? spots spot.id).isNone) id =
      if (find? spots id).isNone then find? down id else none := by
  unfold find?
  rw [List.find?_filter]
  split
  . next hnone =>
    congr 1
    funext spot
    by_cases hspot : spot.id = id
    . simp [hspot, hnone]
    . simp [hspot]
  . next hsome =>
    rw [List.find?_eq_none]
    intro spot _
    by_cases hspot : spot.id = id
    . rw [hspot]
      simpa using hsome
    . simp [hspot]

section Apply

-- At most two contacts go and two others come, so there is room for all changes.
variable (hdown : differ.down.length ≤ 2 ∧ (differ.down.map Spot.id).Nodup) (hframe : IsPlain frame)
include hdown hframe

theorem snd_apply :
    (differ.apply frame).2 =
      if frame.isLast then
        differ.down.map fun spot => (Phase.up, (find? frame.spots spot.id).getD spot)
      else
        (differ.down.filter fun spot => (find? frame.spots spot.id).isNone).map (Phase.up, ·) ++
          frame.spots.map fun spot =>
            (if (find? differ.down spot.id).isSome then Phase.move else Phase.down, spot) := by
  have hgone :=
    List.length_filter_le (fun spot => (find? frame.spots spot.id).isNone) differ.down
  have hspots := hframe.1
  unfold apply changeLimit
  split
  . apply List.take_of_length_le
    rw [List.length_map]
    omega
  . apply List.take_of_length_le
    rw [List.length_append, List.length_map, List.length_map]
    omega

theorem filter_apply (id : UInt32) :
    (differ.apply frame).2.filter (fun change => change.2.id == id) =
      changesOf frame.isLast (find? differ.down id) (find? frame.spots id) := by
  rw [snd_apply hdown hframe]
  split
  . next hlast =>
    rw [filter_map _ hdown.2 (id_getD_find? frame.spots), hlast]
    cases hold : find? differ.down id with
    | none => cases find? frame.spots id <;> rfl
    | some old =>
      have hid := List.find?_some hold
      rw [beq_iff_eq] at hid
      rw [Option.map_some, hid]
      cases find? frame.spots id <;> rfl
  . next hlast =>
    rw [Bool.not_eq_true] at hlast
    have hnodup : ((differ.down.filter fun spot =>
        (find? frame.spots spot.id).isNone).map Spot.id).Nodup := by
      rw [map_id_filter_isNone]
      exact hdown.2.filter _
    rw [List.filter_append, filter_map _ hnodup (fun _ => rfl),
      filter_map _ hframe.2 (fun _ => rfl), find?_gone, hlast]
    cases hnew : find? frame.spots id with
    | none => cases find? differ.down id <;> rfl
    | some spot =>
      have hid := List.find?_some hnew
      rw [beq_iff_eq] at hid
      dsimp only [Option.map_some]
      rw [hid]
      cases find? differ.down id <;> rfl

theorem pairwise_apply :
    (differ.apply frame).2.Pairwise fun change later => later.1 = .up → change.1 = .up := by
  rw [snd_apply hdown hframe]
  split
  . rw [List.pairwise_map]
    exact List.pairwise_of_forall fun _ _ _ => rfl
  . rw [List.pairwise_append, List.pairwise_map, List.pairwise_map]
    refine ⟨List.pairwise_of_forall fun _ _ _ => rfl, List.pairwise_of_forall ?_, ?_⟩
    . intro spot later hup
      dsimp only at hup
      split at hup <;> contradiction
    . intro change hgone later _ _
      obtain ⟨spot, -, rfl⟩ := List.mem_map.1 hgone
      rfl

theorem phasesOf_apply (id : UInt32) :
    phasesOf id (differ.apply frame).2 =
      turn (id ∈ differ.down.map Spot.id) (id ∈ (differ.apply frame).1.down.map Spot.id) := by
  unfold phasesOf
  rw [filter_apply hdown hframe, map_fst_changesOf, down_apply]
  simp only [← isSome_find?, Bool.decide_eq_true]
  cases frame.isLast <;> rfl

end Apply

end TouchPanel.Pattern.Differ
