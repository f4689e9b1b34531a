import TouchPanel.Pointer.Guard
import TouchPanel.Proofs.Pointer.Stroke

/-!
This module contains what the guard knows of the samples that have passed it: which contacts are
down, and the last sample of each (`Guard.Tracks`).

Main statements: `Guard.tracks_judge` for one sample, `Guard.run_of_strokes` for samples that are
strokes already, and `Guard.tracks_release` for the lifting of all contacts.
-/

namespace TouchPanel

namespace Stroke

def samplesOf (key : Key) (samples : List Sample) : List Sample :=
  samples.filter fun sample => sample.key == key

theorem samplesOf_append (key : Key) (samples more : List Sample) :
    samplesOf key (samples ++ more) = samplesOf key samples ++ samplesOf key more := by
  unfold samplesOf
  rw [List.filter_append]

theorem samplesOf_singleton (key : Key) (sample : Sample) :
    samplesOf key [sample] = if sample.key = key then [sample] else [] := by
  unfold samplesOf
  by_cases hkey : sample.key = key <;> simp [hkey]

theorem ofKey_eq_map (key : Key) (samples : List Sample) :
    ofKey key samples = (samplesOf key samples).map Sample.phase := rfl

theorem ofKey_append (key : Key) (samples more : List Sample) :
    ofKey key (samples ++ more) = ofKey key samples ++ ofKey key more := by
  rw [ofKey_eq_map, samplesOf_append, List.map_append]
  rfl

theorem ofKey_cons (key : Key) (sample : Sample) (samples : List Sample) :
    ofKey key (sample :: samples) =
      if sample.key = key then sample.phase :: ofKey key samples else ofKey key samples := by
  unfold ofKey
  by_cases hkey : sample.key = key <;> simp [hkey]

theorem ofKey_singleton (key : Key) (sample : Sample) :
    ofKey key [sample] = if sample.key = key then [sample.phase] else [] := by
  rw [ofKey_eq_map, samplesOf_singleton]
  split <;> rfl

theorem ofKey_flatMap {α : Type} (key : Key) (samples : α → List Sample) (items : List α) :
    ofKey key (items.flatMap samples) = items.flatMap fun item => ofKey key (samples item) := by
  unfold ofKey
  rw [List.filter_flatMap, List.map_flatMap]

end Stroke

namespace Guard

open Stroke (ofKey samplesOf)

/--
The guard knows of each contact, from samples that are strokes, whether it is down, and its last
sample if it is.
-/
structure Tracks (guard : Guard) (samples : List Sample) : Prop where
  run : ∀ key, Stroke.run false (ofKey key samples) = some (guard.isDown key)
  last : ∀ key sample, guard.find? key = some sample →
    (samplesOf key samples).getLast? = some sample

variable {guard next : Guard} {samples : List Sample} {sample : Sample}

theorem tracks_empty : Tracks .empty [] := by
  constructor
  . exact fun _ => rfl
  . exact nofun

theorem tracks_concat (h : Tracks guard samples) {last? : Option Sample}
    (hfind : ∀ key, next.find? key = if sample.key = key then last? else guard.find? key)
    (hphase : Stroke.next (guard.isDown sample.key) sample.phase = some last?.isSome)
    (hlast : ∀ last, last? = some last → last = sample) : Tracks next (samples ++ [sample]) := by
  constructor
  . intro key
    rw [Stroke.ofKey_append, Stroke.run_append, h.run, Stroke.ofKey_singleton, Option.bind_some]
    unfold isDown
    rw [hfind]
    by_cases hkey : sample.key = key
    . subst hkey
      rw [if_pos rfl, if_pos rfl, Stroke.run_cons]
      unfold isDown at hphase
      rw [hphase]
      rfl
    . rw [if_neg hkey, if_neg hkey, Stroke.run_nil]
  . intro key last hfound
    rw [hfind] at hfound
    rw [Stroke.samplesOf_append, Stroke.samplesOf_singleton]
    by_cases hkey : sample.key = key
    . rw [if_pos hkey] at hfound ⊢
      rw [List.getLast?_concat, hlast last hfound]
    . rw [if_neg hkey] at hfound ⊢
      rw [List.append_nil]
      exact h.last key last hfound

theorem tracks_put (h : Tracks guard samples)
    (hphase : Stroke.next (guard.isDown sample.key) sample.phase = some true) :
    Tracks (guard.put sample) (samples ++ [sample]) := by
  apply tracks_concat h (guard.find?_put sample) hphase
  intro last hlast
  exact (Option.some.inj hlast).symm

theorem tracks_drop (h : Tracks guard samples)
    (hphase : Stroke.next (guard.isDown sample.key) sample.phase = some false) :
    Tracks (guard.drop sample.key) (samples ++ [sample]) := by
  apply tracks_concat h (guard.find?_drop sample.key) hphase
  exact nofun

theorem tracks_congr (h : Tracks guard samples) (hfind : ∀ key, next.find? key = guard.find? key) :
    Tracks next samples := by
  constructor
  . intro key
    unfold isDown
    rw [hfind]
    apply h.run
  . intro key last hfound
    rw [hfind] at hfound
    exact h.last key last hfound

theorem isDown_of_find? {key : Key} {last : Sample} (hfound : guard.find? key = some last) :
    guard.isDown key = true := by
  unfold isDown
  rw [hfound]
  rfl

theorem isDown_drop (guard : Guard) (key : Key) : (guard.drop key).isDown key = false := by
  unfold isDown
  rw [find?_drop, if_pos rfl]
  rfl

theorem tracks_judge (h : Tracks guard samples) (sample : Sample) :
    Tracks (guard.judge sample).1 (samples ++ (guard.judge sample).2.samples) := by
  unfold judge
  cases hfound : guard.find? sample.key with
  | none =>
    have hup : guard.isDown sample.key = false := by
      unfold isDown
      rw [hfound]
      rfl
    cases hphase : sample.phase with
    | down =>
      apply tracks_put h
      rw [hup, hphase]
      rfl
    | move =>
      dsimp only [Verdict.samples]
      rw [List.append_nil]
      exact h
    | up =>
      dsimp only [Verdict.samples]
      rw [List.append_nil]
      exact h
  | some last =>
    have hdown := isDown_of_find? hfound
    have hkey := key_of_find? hfound
    cases hphase : sample.phase with
    | down =>
      -- The contact is lifted first, as if it had been dropped before it is put in again.
      have hlifted : Tracks (guard.drop (last.lifted sample.time).key)
          (samples ++ [last.lifted sample.time]) := by
        apply tracks_drop h
        rw [Sample.key_lifted, hkey, hdown]
        rfl
      have hput : Tracks ((guard.drop last.key).put sample)
          (samples ++ [last.lifted sample.time] ++ [sample]) := by
        apply tracks_put hlifted
        rw [Sample.key_lifted, hkey, isDown_drop, hphase]
        rfl
      dsimp only [Verdict.samples]
      rw [List.append_cons]
      apply tracks_congr hput
      intro key
      rw [find?_put, find?_put, find?_drop, hkey]
      split <;> rfl
    | move =>
      apply tracks_put h
      rw [hdown, hphase]
      rfl
    | up =>
      apply tracks_drop h
      rw [hdown, hphase]
      rfl

theorem judge_of_next (guard : Guard) {sample : Sample}
    (h : (Stroke.next (guard.isDown sample.key) sample.phase).isSome) :
    (guard.judge sample).2 = .accepted sample := by
  unfold isDown at h
  unfold judge
  cases hphase : sample.phase <;> cases hfound : guard.find? sample.key <;>
    simp_all [Stroke.next]

theorem judge_of_closed (h : Tracks guard samples) {rest : List Sample}
    (hclosed : Stroke.Closed (ofKey sample.key (samples ++ sample :: rest))) :
    (guard.judge sample).2 = .accepted sample := by
  apply judge_of_next
  unfold Stroke.Closed at hclosed
  rw [Stroke.ofKey_append, Stroke.run_append, h.run, Option.bind_some, Stroke.ofKey_cons,
    if_pos rfl, Stroke.run_cons] at hclosed
  obtain ⟨next, hnext, -⟩ := Option.bind_eq_some_iff.1 hclosed
  rw [hnext]
  rfl

theorem samplesOf_of_ascending {samples : List Sample} (h : Ascending samples) (key : Key) :
    samplesOf key samples = (samples.find? fun sample => sample.key == key).toList := by
  unfold samplesOf
  induction samples with
  | nil => rfl
  | cons sample rest ih =>
    obtain ⟨hsample, hrest⟩ := List.pairwise_cons.1 h
    by_cases hkey : sample.key = key
    . have hnone : rest.filter (fun sample => sample.key == key) = [] := by
        rw [List.filter_eq_nil_iff]
        intro other hmem
        have hrank := hsample other hmem
        rw [hkey] at hrank
        rw [beq_iff_eq]
        intro hother
        rw [hother] at hrank
        exact absurd hrank (Nat.lt_irrefl _)
      simp [hkey, hnone]
    . simp [hkey, ih hrest]

theorem samplesOf_release (guard : Guard) (time : UInt64) (key : Key) :
    samplesOf key (guard.release time) = ((guard.find? key).map (·.lifted time)).toList := by
  unfold release find?
  rw [Option.toList_map, ← samplesOf_of_ascending guard.ascending]
  unfold samplesOf
  rw [List.filter_map]
  rfl

theorem ascending_release (guard : Guard) (time : UInt64) : Ascending (guard.release time) := by
  unfold release Ascending
  rw [List.pairwise_map]
  exact guard.ascending

theorem tracks_release (h : Tracks guard samples) (time : UInt64) :
    Tracks .empty (samples ++ guard.release time) := by
  constructor
  . intro key
    rw [Stroke.ofKey_append, Stroke.run_append, h.run, Stroke.ofKey_eq_map, samplesOf_release]
    unfold isDown
    cases guard.find? key <;> rfl
  . exact nofun

def verdicts (guard : Guard) : List Sample → List Verdict
  | [] => []
  | sample :: rest => (guard.judge sample).2 :: (guard.judge sample).1.verdicts rest

theorem isDown_judge {after : Bool}
    (h : Stroke.next (guard.isDown sample.key) sample.phase = some after) (key : Key) :
    (guard.judge sample).1.isDown key = if sample.key = key then after else guard.isDown key := by
  unfold isDown at h ⊢
  unfold judge
  cases hphase : sample.phase <;> cases hfound : guard.find? sample.key <;>
    rw [hphase, hfound] at h
  case down.none | move.some =>
    obtain rfl := Option.some.inj h
    rw [find?_put]
    split <;> rfl
  case up.some =>
    obtain rfl := Option.some.inj h
    rw [find?_drop]
    split <;> rfl
  all_goals contradiction

theorem run_of_strokes (h : ∀ key, (Stroke.run (guard.isDown key) (ofKey key samples)).isSome) :
    guard.verdicts samples = samples.map .accepted ∧ (guard.run samples).2 = samples ∧
      ∀ key, Stroke.run (guard.isDown key) (ofKey key samples) =
        some ((guard.run samples).1.isDown key) := by
  induction samples generalizing guard with
  | nil => exact ⟨rfl, rfl, fun _ => rfl⟩
  | cons sample rest ih =>
    obtain ⟨after, hafter⟩ :
        ∃ after, Stroke.next (guard.isDown sample.key) sample.phase = some after := by
      have hsample := h sample.key
      rw [Stroke.ofKey_cons, if_pos rfl, Stroke.run_cons] at hsample
      cases hnext : Stroke.next (guard.isDown sample.key) sample.phase with
      | none =>
        rw [hnext] at hsample
        contradiction
      | some after => exact ⟨after, rfl⟩
    have hverdict : (guard.judge sample).2 = .accepted sample := by
      apply judge_of_next
      rw [hafter]
      rfl
    have hrun : ∀ key, Stroke.run (guard.isDown key) (ofKey key (sample :: rest)) =
        Stroke.run ((guard.judge sample).1.isDown key) (ofKey key rest) := by
      intro key
      rw [Stroke.ofKey_cons, isDown_judge hafter]
      by_cases hkey : sample.key = key
      . subst hkey
        rw [if_pos rfl, if_pos rfl, Stroke.run_cons, hafter]
        rfl
      . rw [if_neg hkey, if_neg hkey]
    simp only [hrun] at h ⊢
    obtain ⟨hverdicts, hpassed, hlast⟩ := ih h
    unfold verdicts run
    dsimp only
    rw [hverdict, hverdicts, hpassed]
    exact ⟨rfl, rfl, hlast⟩

theorem eq_empty_of_isDown (h : ∀ key, guard.isDown key = false) : guard = .empty := by
  obtain ⟨samples, hascending⟩ := guard
  cases samples with
  | nil => rfl
  | cons sample rest =>
    have hsample := h sample.key
    unfold isDown find? at hsample
    rw [List.find?_cons_of_pos (by simp)] at hsample
    contradiction

/--
Samples that are whole strokes pass a guard that knows of no contact as they are, and leave none
down.
-/
theorem accepted_of_closed (h : ∀ key, Stroke.Closed (ofKey key samples)) :
    Guard.empty.verdicts samples = samples.map .accepted ∧
      (Guard.empty.run samples).1 = .empty := by
  have hrun : ∀ key, Stroke.run (Guard.empty.isDown key) (ofKey key samples) = some false := h
  obtain ⟨hverdicts, -, hdown⟩ := run_of_strokes fun key => by
    rw [hrun key]
    rfl
  refine ⟨hverdicts, eq_empty_of_isDown fun key => ?_⟩
  have hkey := hdown key
  rw [hrun key] at hkey
  exact (Option.some.inj hkey).symm

theorem Tracks.follows (h : Tracks guard samples) (key : Key) :
    Stroke.Follows (ofKey key samples) :=
  Stroke.follows_of_run (h.run key)

theorem Tracks.isDown_iff (h : Tracks guard samples) (key : Key) :
    guard.isDown key = true ↔ Stroke.IsOpen (ofKey key samples) :=
  (Stroke.isOpen_iff_of_run (h.run key)).symm

theorem Tracks.ofKey_release_eq_nil_iff (h : Tracks guard samples) (time : UInt64) (key : Key) :
    ofKey key (guard.release time) = [] ↔ ¬ Stroke.IsOpen (ofKey key samples) := by
  rw [← h.isDown_iff, Stroke.ofKey_eq_map, samplesOf_release]
  unfold isDown
  cases guard.find? key <;> simp

end Guard

end TouchPanel
