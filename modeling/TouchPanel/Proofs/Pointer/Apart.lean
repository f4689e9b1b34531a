import TouchPanel.Proofs.Pointer.Lookup

/-!
This module contains the proof that a guard keeps contacts apart: what it makes of the samples of one
contact depends on no other samples (`Guard.apart_run`). So the order in which samples of different
contacts come is of no account (`Guard.perm_verdicts`).
-/

namespace TouchPanel

def Verdict.key : Verdict → Key
  | .accepted sample => sample.key
  | .implicitRelease _ down => down.key
  | .rejected sample => sample.key

theorem Verdict.key_of (last? : Option Sample) (sample : Sample) :
    (Verdict.of last? sample).key = sample.key := by
  unfold Verdict.of
  cases sample.phase <;> cases last? <;> rfl

namespace Guard

open Stroke (samplesOf)

variable {guard other : Guard} {samples others : List Sample} {key : Key}

theorem key_of_mem_judge {sample passed : Sample}
    (h : passed ∈ (guard.judge sample).2.samples) : passed.key = sample.key := by
  rw [snd_judge] at h
  cases hlast : guard.find? sample.key with
  | none =>
    rw [hlast] at h
    unfold Verdict.of at h
    cases hphase : sample.phase <;> simp_all [Verdict.samples]
  | some last =>
    have hkey := key_of_find? hlast
    rw [hlast] at h
    unfold Verdict.of at h
    cases hphase : sample.phase <;> simp only [hphase, Verdict.samples, List.mem_cons,
      List.not_mem_nil, or_false] at h
    case down =>
      rcases h with rfl | rfl
      . rw [Sample.key_lifted, hkey]
      . rfl
    all_goals rw [h]

theorem samplesOf_judge (guard : Guard) (sample : Sample) (key : Key) :
    samplesOf key (guard.judge sample).2.samples =
      if sample.key = key then (guard.judge sample).2.samples else [] := by
  unfold samplesOf
  split
  . next hkey =>
    rw [List.filter_eq_self]
    intro passed hmem
    rw [key_of_mem_judge hmem, hkey, beq_self_eq_true]
  . next hkey =>
    rw [List.filter_eq_nil_iff]
    intro passed hmem
    rw [key_of_mem_judge hmem, beq_iff_eq]
    exact hkey

theorem apart_run (h : guard.find? key = other.find? key) (samples : List Sample) :
    (guard.verdicts samples).filter (·.key == key) = other.verdicts (samplesOf key samples) ∧
      samplesOf key (guard.run samples).2 = (other.run (samplesOf key samples)).2 ∧
      (guard.run samples).1.find? key = (other.run (samplesOf key samples)).1.find? key := by
  induction samples generalizing guard other with
  | nil => exact ⟨rfl, rfl, h⟩
  | cons sample samples ih =>
    have hkeyof : (guard.judge sample).2.key = sample.key := by
      rw [snd_judge, Verdict.key_of]
    rw [verdicts_cons, run_cons, Stroke.samplesOf_append, samplesOf_judge]
    by_cases hkey : sample.key = key
    . have hsamples : samplesOf key (sample :: samples) = sample :: samplesOf key samples :=
        List.filter_cons_of_pos (by simp [hkey])
      have hjudge : (guard.judge sample).2 = (other.judge sample).2 := by
        rw [snd_judge, snd_judge, hkey, h]
      have hnext : (guard.judge sample).1.find? key = (other.judge sample).1.find? key := by
        rw [find?_judge, find?_judge, h]
      obtain ⟨hverdicts, hpassed, hlast⟩ := ih hnext
      rw [hsamples, verdicts_cons, run_cons, List.filter_cons_of_pos (by simp [hkeyof, hkey]),
        if_pos hkey, hverdicts, hpassed, hlast, hjudge]
      exact ⟨rfl, rfl, rfl⟩
    . have hsamples : samplesOf key (sample :: samples) = samplesOf key samples :=
        List.filter_cons_of_neg (by simp [hkey])
      have hnext : (guard.judge sample).1.find? key = other.find? key := by
        rw [find?_judge, if_neg hkey, h]
      rw [hsamples, List.filter_cons_of_neg (by simp [hkeyof, hkey]), if_neg hkey,
        List.nil_append]
      exact ih hnext

/--
Samples that come in another order, but in the same for each contact, get the same verdicts, and the
guard remembers the same of them.
-/
theorem perm_verdicts (guard : Guard)
    (h : ∀ key, samplesOf key samples = samplesOf key others) :
    (guard.verdicts samples).Perm (guard.verdicts others) ∧
      (guard.run samples).1 = (guard.run others).1 := by
  constructor
  . rw [List.perm_iff_count]
    intro verdict
    have hcount : ∀ list : List Verdict,
        list.count verdict = (list.filter (·.key == verdict.key)).count verdict := by
      intro list
      rw [List.count_filter (by simp)]
    rw [hcount, hcount (guard.verdicts others), (apart_run rfl samples).1,
      (apart_run rfl others).1, h]
  . apply eq_of_find?
    intro key
    rw [(apart_run rfl samples).2.2, (apart_run rfl others).2.2, h]

end Guard

end TouchPanel
