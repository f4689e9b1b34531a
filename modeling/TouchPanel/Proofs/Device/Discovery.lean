import Mathlib.Data.List.Forall2
import Mathlib.Data.List.Nodup
import TouchPanel.Device.Discovery
import TouchPanel.Text.Integer

/-!
This module contains that the search for the first multi-touch device and the list of all nodes that
open agree (`Discovery.first_and_all`): the search finds the first entry of the list that describes
such a device.
-/

namespace TouchPanel.Device.Discovery

abbrev Entry := String × Except SurveyFault Capabilities

def IsMultiTouch (entry : Entry) : Prop :=
  ∃ capabilities, entry.2 = .ok capabilities ∧ capabilities.isMultiTouch = true

def listing? (opener : Opener) (path : String) : Option Entry :=
  (opener path).toOption.map fun device => (path, device.survey.capabilities)

def hit? : Entry → Option Hit
  | (_, .error _) => none
  | (path, .ok capabilities) =>
    if capabilities.isMultiTouch then some ⟨path, capabilities⟩ else none

theorem node_injective (root : String) : Function.Injective (node root) := by
  intro index other h
  have hname : s!"event{index}" = s!"event{other}" := by
    unfold node Path.join at h
    split at h <;> exact (String.append_right_inj _).1 h
  have htext : toString index = toString other := by
    simpa using hname
  have hread := Text.readNat_toString (Nat.le_add_right index other)
  rw [htext, Text.readNat_toString (Nat.le_add_left other index)] at hread
  exact (Except.ok.inj hread).symm

theorem listing?_eq_some_iff {opener : Opener} {path : String} {entry : Entry} :
    listing? opener path = some entry ↔
      ∃ device, opener path = .ok device ∧ entry = (path, device.survey.capabilities) := by
  unfold listing?
  cases opener path with
  | error fault => simp [Except.toOption]
  | ok device => simp [Except.toOption, eq_comm]

theorem hit?_eq_some_iff {entry : Entry} {hit : Hit} :
    hit? entry = some hit ↔
      entry = (hit.path, .ok hit.capabilities) ∧ hit.capabilities.isMultiTouch = true := by
  obtain ⟨path, outcome⟩ := entry
  cases outcome with
  | error fault => simp [hit?]
  | ok capabilities =>
    simp only [hit?, Prod.mk.injEq, Except.ok.injEq, Option.ite_none_right_eq_some,
      Option.some.injEq]
    constructor
    . rintro ⟨hmulti, rfl⟩
      exact ⟨⟨rfl, rfl⟩, hmulti⟩
    . rintro ⟨⟨rfl, rfl⟩, hmulti⟩
      exact ⟨hmulti, rfl⟩

theorem hit?_eq_none_iff {entry : Entry} : hit? entry = none ↔ ¬ IsMultiTouch entry := by
  obtain ⟨path, outcome⟩ := entry
  cases outcome with
  | error fault => simp [hit?, IsMultiTouch]
  | ok capabilities => simp [hit?, IsMultiTouch]

/--
A node that does not open, one that cannot be surveyed and one without multi-touch axes are passed
over alike.
-/
theorem toOption_visit (opener : Opener) (path : String) :
    (visit opener path).toOption.map (Hit.mk path) = (listing? opener path).bind hit? := by
  unfold visit listing?
  cases opener path with
  | error fault => rfl
  | ok device =>
    dsimp only [Except.toOption, Option.map_some, Option.bind_some]
    cases device.survey.capabilities with
    | error fault => rfl
    | ok capabilities =>
      dsimp only [hit?]
      cases capabilities.isMultiTouch <;> rfl

theorem first_eq (root : String) (opener : Opener) :
    first root opener =
      match (all root opener).findSome? hit? with
      | some hit => .ok hit
      | none => .error (.noDevice root) := by
  have hvisit : (fun path => (visit opener path).toOption.map (Hit.mk path)) =
      fun path => (listing? opener path).bind hit? := funext (toOption_visit opener)
  unfold first
  dsimp only
  rw [hvisit, ← List.head?_filterMap, ← List.filterMap_filterMap, List.head?_filterMap]
  rfl

theorem all_eq (root : String) (opener : Opener) :
    all root opener =
      (List.range nodeCount).filterMap fun index => listing? opener (node root index) :=
  List.filterMap_map

theorem forall₂_filterMap {α β : Type} (f : α → Option β) (xs : List α) :
    List.Forall₂ (fun x y => f x = some y) (xs.filter fun x => (f x).isSome) (xs.filterMap f) := by
  induction xs with
  | nil => exact .nil
  | cons x xs ih =>
    cases hx : f x with
    | none => simpa [hx] using ih
    | some y => simpa [hx] using ih

theorem forall₂_all (root : String) (opener : Opener) :
    List.Forall₂ (fun index entry => listing? opener (node root index) = some entry)
      ((List.range nodeCount).filter fun index => (listing? opener (node root index)).isSome)
      (all root opener) := by
  rw [all_eq]
  exact forall₂_filterMap _ _

theorem nodup_of_forall₂ {root : String} {opener : Opener} {indices : List Nat}
    {entries : List Entry} (hindices : indices.Nodup)
    (h : List.Forall₂ (fun index entry => listing? opener (node root index) = some entry)
      indices entries) :
    (entries.map Prod.fst).Nodup := by
  have hpaths : entries.map Prod.fst = indices.map (node root) := by
    induction h with
    | nil => rfl
    | cons hentry _ ih =>
      obtain ⟨device, _, rfl⟩ := listing?_eq_some_iff.1 hentry
      rw [List.map_cons, List.map_cons, ih hindices.of_cons]
  rw [hpaths]
  exact hindices.map (node_injective root)

/--
The list has exactly the nodes from 0 to 31 that open, once each and in numeric order, with the
outcomes of their surveys. The search finds the first of its entries that describes a multi-touch
device, and fails, with the root that it was given, if there is none.
-/
theorem first_and_all (root : String) (opener : Opener) :
    (∀ hit, first root opener = .ok hit ↔
      ∃ before after, all root opener = before ++ (hit.path, .ok hit.capabilities) :: after ∧
        hit.capabilities.isMultiTouch = true ∧ ∀ entry ∈ before, ¬ IsMultiTouch entry) ∧
      (∀ failure, first root opener = .error failure ↔
        failure = .noDevice root ∧ ∀ entry ∈ all root opener, ¬ IsMultiTouch entry) ∧
      ((all root opener).map Prod.fst).Nodup ∧
      ∃ indices : List Nat, indices.Pairwise (· < ·) ∧
        (∀ index, index ∈ indices ↔
          index < 32 ∧ ∃ device, opener (Path.join root s!"event{index}") = .ok device) ∧
        List.Forall₂ (fun index entry => ∃ device,
          opener (Path.join root s!"event{index}") = .ok device ∧
            entry = (Path.join root s!"event{index}", device.survey.capabilities))
          indices (all root opener) := by
  have hforall := forall₂_all root opener
  have hsorted : ((List.range nodeCount).filter fun index =>
      (listing? opener (node root index)).isSome).Pairwise (· < ·) :=
    List.pairwise_lt_range.filter _
  refine ⟨?_, ?_, nodup_of_forall₂ (hsorted.imp Nat.ne_of_lt) hforall, _, hsorted, ?_, ?_⟩
  . intro hit
    have hfirst : first root opener = .ok hit ↔ (all root opener).findSome? hit? = some hit := by
      rw [first_eq]
      cases (all root opener).findSome? hit? <;> simp
    rw [hfirst, List.findSome?_eq_some_iff]
    simp only [hit?_eq_some_iff, hit?_eq_none_iff]
    constructor
    . rintro ⟨before, entry, after, hall, ⟨rfl, hmulti⟩, hbefore⟩
      exact ⟨before, after, hall, hmulti, hbefore⟩
    . rintro ⟨before, after, hall, hmulti, hbefore⟩
      exact ⟨before, _, after, hall, ⟨rfl, hmulti⟩, hbefore⟩
  . intro failure
    have hfirst : first root opener = .error failure ↔
        failure = .noDevice root ∧ (all root opener).findSome? hit? = none := by
      rw [first_eq]
      cases (all root opener).findSome? hit? <;> simp [eq_comm]
    rw [hfirst, List.findSome?_eq_none_iff]
    simp only [hit?_eq_none_iff]
  . intro index
    rw [List.mem_filter, List.mem_range, Option.isSome_iff_exists]
    simp only [listing?_eq_some_iff]
    refine and_congr_right fun _ => ⟨?_, ?_⟩
    . rintro ⟨entry, device, hopen, -⟩
      exact ⟨device, hopen⟩
    . rintro ⟨device, hopen⟩
      exact ⟨_, device, hopen, rfl⟩
  . simp only [listing?_eq_some_iff] at hforall
    exact hforall

end TouchPanel.Device.Discovery
