import TouchPanel.Proofs.Pointer.Guard

/-!
This module contains what the guard does in terms of what it remembers of the contact of a sample:
the verdict (`Guard.snd_judge`), and what it remembers after it (`Guard.find?_judge`). What it
remembers of each contact is all that there is to a guard (`Guard.eq_of_find?`).
-/

namespace TouchPanel

/--
Whether a phase puts its contact down (`true`) or lifts it (`false`), if it does either.
-/
def Phase.change? : Phase → Option Bool
  | .down => some true
  | .move => none
  | .up => some false

/--
What is remembered of a contact after one of its samples, if `last?` was remembered before.
-/
def Sample.heldAfter (sample : Sample) (last? : Option Sample) : Option Sample :=
  match sample.phase with
  | .down => some sample
  | .move => last?.map fun _ => sample
  | .up => none

def Verdict.of (last? : Option Sample) (sample : Sample) : Verdict :=
  match sample.phase, last? with
  | .down, none => .accepted sample
  | .down, some last => .implicitRelease (last.lifted sample.time) sample
  | _, some _ => .accepted sample
  | _, none => .rejected sample

namespace Guard

variable {guard other : Guard}

theorem snd_judge (guard : Guard) (sample : Sample) :
    (guard.judge sample).2 = .of (guard.find? sample.key) sample := by
  unfold judge Verdict.of
  cases sample.phase <;> cases guard.find? sample.key <;> rfl

theorem find?_judge (guard : Guard) (sample : Sample) (key : Key) :
    (guard.judge sample).1.find? key =
      if sample.key = key then sample.heldAfter (guard.find? key) else guard.find? key := by
  unfold judge Sample.heldAfter
  by_cases hkey : sample.key = key
  . subst hkey
    cases sample.phase <;> cases hlast : guard.find? sample.key <;>
      simp [find?_put, find?_drop, hlast]
  . cases sample.phase <;> cases guard.find? sample.key <;> simp [find?_put, find?_drop, hkey]

theorem isDown_fst_judge (guard : Guard) (sample : Sample) (key : Key) :
    (guard.judge sample).1.isDown key =
      if sample.key = key then
        sample.phase.change?.getD (guard.isDown key)
      else
        guard.isDown key := by
  unfold isDown
  rw [find?_judge]
  unfold Sample.heldAfter
  split
  . cases sample.phase with
    | down => rfl
    | move => exact Option.isSome_map
    | up => rfl
  . rfl

theorem mem_samples_iff {guard : Guard} {sample : Sample} :
    sample ∈ guard.samples ↔ guard.find? sample.key = some sample := by
  have hsamples := samplesOf_of_ascending guard.ascending sample.key
  change Stroke.samplesOf _ _ = (guard.find? sample.key).toList at hsamples
  rw [← Option.mem_toList, ← hsamples]
  unfold Stroke.samplesOf
  simp

theorem nodup_of_ascending {samples : List Sample} (h : Ascending samples) : samples.Nodup := by
  apply List.Pairwise.imp _ h
  rintro a b hlt rfl
  exact Nat.lt_irrefl _ hlt

theorem eq_of_find? (h : ∀ key, guard.find? key = other.find? key) : guard = other := by
  have hmem : ∀ sample, sample ∈ guard.samples ↔ sample ∈ other.samples := by
    intro sample
    rw [mem_samples_iff, mem_samples_iff, h]
  have hperm : guard.samples.Perm other.samples :=
    (List.perm_ext_iff_of_nodup (nodup_of_ascending guard.ascending)
      (nodup_of_ascending other.ascending)).2 hmem
  have hsamples : guard.samples = other.samples := by
    apply hperm.eq_of_pairwise _ guard.ascending other.ascending
    intro a b _ _ hab hba
    exact absurd hab (Nat.lt_asymm hba)
  obtain ⟨samples, hascending⟩ := guard
  obtain ⟨others, hothers⟩ := other
  obtain rfl : samples = others := hsamples
  rfl

theorem run_cons (guard : Guard) (sample : Sample) (samples : List Sample) :
    guard.run (sample :: samples) =
      (((guard.judge sample).1.run samples).1,
        (guard.judge sample).2.samples ++ ((guard.judge sample).1.run samples).2) := rfl

theorem run_append (guard : Guard) (samples more : List Sample) :
    guard.run (samples ++ more) =
      (((guard.run samples).1.run more).1,
        (guard.run samples).2 ++ ((guard.run samples).1.run more).2) := by
  induction samples generalizing guard with
  | nil => rfl
  | cons sample samples ih =>
    rw [List.cons_append, run_cons, run_cons, ih, List.append_assoc]

theorem run_singleton (guard : Guard) (sample : Sample) :
    guard.run [sample] = ((guard.judge sample).1, (guard.judge sample).2.samples) := by
  rw [run_cons]
  exact Prod.ext rfl (List.append_nil _)

theorem verdicts_cons (guard : Guard) (sample : Sample) (samples : List Sample) :
    guard.verdicts (sample :: samples) =
      (guard.judge sample).2 :: (guard.judge sample).1.verdicts samples := rfl

theorem verdicts_concat (guard : Guard) (samples : List Sample) (sample : Sample) :
    guard.verdicts (samples ++ [sample]) =
      guard.verdicts samples ++ [((guard.run samples).1.judge sample).2] := by
  induction samples generalizing guard with
  | nil => rfl
  | cons first samples ih => rw [List.cons_append, verdicts_cons, verdicts_cons, ih, run_cons,
      List.cons_append]

theorem snd_run (guard : Guard) (samples : List Sample) :
    (guard.run samples).2 = (guard.verdicts samples).flatMap Verdict.samples := by
  induction samples generalizing guard with
  | nil => rfl
  | cons sample samples ih => rw [run_cons, verdicts_cons, List.flatMap_cons, ih]

end Guard

end TouchPanel
