import TouchPanel.Proofs.Pointer.Lookup

/-!
This module contains the proof that a guard makes strokes of any samples, and leaves strokes as they
are (`Guard.mends_run`).

What a guard remembers of a contact can be told from the samples alone, whatever they are
(`Stroke.held?`), and with it what becomes of each of them.
-/

namespace TouchPanel

namespace Stroke

/--
The last sample of a contact that is down after some samples: it has gone down and not lifted since.
-/
def held? (key : Key) (samples : List Sample) : Option Sample :=
  if ((ofKey key samples).filter (· ≠ .move)).getLast? = some .down then
    (samplesOf key samples).getLast?
  else
    none

def verdictsAfter (before : List Sample) : List Sample → List Verdict
  | [] => []
  | sample :: samples =>
    .of (held? sample.key before) sample :: verdictsAfter (before ++ [sample]) samples

theorem held?_concat (key : Key) (samples : List Sample) (sample : Sample) :
    held? key (samples ++ [sample]) =
      if sample.key = key then sample.heldAfter (held? key samples) else held? key samples := by
  unfold held?
  rw [ofKey_append, ofKey_singleton, samplesOf_append, samplesOf_singleton, List.filter_append]
  by_cases hkey : sample.key = key
  . rw [if_pos hkey, if_pos hkey, if_pos hkey, List.getLast?_concat]
    unfold Sample.heldAfter
    cases hphase : sample.phase with
    | down => simp
    | move =>
      -- A move leaves the contact down if it is, and then it is not the first sample of it.
      rw [List.filter_cons_of_neg (by simp), List.filter_nil, List.append_nil]
      split
      . next hdown =>
        have hne : samplesOf key samples ≠ [] := by
          intro hnil
          rw [ofKey_eq_map, hnil] at hdown
          contradiction
        rw [List.getLast?_eq_some_getLast hne]
        rfl
      . rfl
    | up => simp
  . rw [if_neg hkey, if_neg hkey, if_neg hkey, List.filter_nil, List.append_nil, List.append_nil]

end Stroke

namespace Guard

open Stroke (ofKey samplesOf held? verdictsAfter)

variable {guard other : Guard} {samples : List Sample}

theorem find?_run (samples : List Sample) (key : Key) :
    (Guard.empty.run samples).1.find? key = held? key samples := by
  induction samples using List.reverseRecOn with
  | nil => rfl
  | append_singleton samples sample ih =>
    rw [run_append, run_singleton, find?_judge, ih, Stroke.held?_concat]

theorem verdicts_run (before samples : List Sample) :
    (Guard.empty.run before).1.verdicts samples = verdictsAfter before samples := by
  induction samples generalizing before with
  | nil => rfl
  | cons sample samples ih =>
    rw [verdicts_cons, snd_judge, find?_run]
    unfold verdictsAfter
    rw [← ih, run_append, run_singleton]

theorem tracks_run {before : List Sample} (h : Tracks guard before) (samples : List Sample) :
    Tracks (guard.run samples).1 (before ++ (guard.run samples).2) := by
  induction samples generalizing guard before with
  | nil =>
    unfold run
    rw [List.append_nil]
    exact h
  | cons sample samples ih =>
    rw [run_cons, ← List.append_assoc]
    exact ih (tracks_judge h sample)

theorem eq_of_tracks (h : Tracks guard samples) (hother : Tracks other samples) :
    guard = other := by
  apply eq_of_find?
  intro key
  have hdown : guard.isDown key = other.isDown key :=
    Option.some.inj ((h.run key).symm.trans (hother.run key))
  unfold isDown at hdown
  cases hfound : guard.find? key <;> cases hsample : other.find? key <;>
    rw [hfound, hsample] at hdown
  case some.some last sample =>
    rw [← h.last key last hfound, ← hother.last key sample hsample]
  all_goals contradiction

/--
What passes a guard, whatever the samples are, passes another guard as it is, and both know the same
contacts in the end. Strokes pass as they are. In general, what is turned away is left out, and a
contact that goes down while it is down is lifted first, where it was last seen and at the time of
the down. A contact is down if it has gone down and not lifted since, and this can be told from the
samples alone.
-/
theorem mends_run (samples : List Sample) :
    let passed := Guard.empty.run samples
    (Guard.empty.verdicts passed.2 = passed.2.map .accepted ∧
      Guard.empty.run passed.2 = passed) ∧
    ((∀ key, Stroke.Follows (ofKey key samples)) → passed.2 = samples) ∧
    Guard.empty.verdicts samples = verdictsAfter [] samples ∧
    passed.2 = (verdictsAfter [] samples).flatMap Verdict.samples ∧
    ∀ key, passed.1.find? key = held? key samples := by
  intro passed
  have htracks : Tracks passed.1 passed.2 := tracks_run tracks_empty samples
  obtain ⟨hverdicts, hagain, -⟩ := @run_of_strokes .empty _ htracks.follows
  have hlast : Tracks (Guard.empty.run passed.2).1 passed.2 := by
    have hrun := tracks_run tracks_empty passed.2
    rw [hagain] at hrun
    exact hrun
  have htold : Guard.empty.verdicts samples = verdictsAfter [] samples := verdicts_run [] samples
  refine ⟨⟨hverdicts, Prod.ext (eq_of_tracks hlast htracks) hagain⟩, ?_, htold, ?_,
    find?_run samples⟩
  . intro hfollows
    exact (@run_of_strokes .empty _ hfollows).2.1
  . rw [← htold]
    exact snd_run Guard.empty samples

/--
Two contacts go down, and the first one lifts.
-/
theorem mends_run_crossed :
    let first : Sample := ⟨.down, 1, 0, 0, 1, 0, .touch⟩
    let second : Sample := ⟨.down, 2, 0, 0, 1, 5, .touch⟩
    let samples : List Sample := [first, second, first.lifted 9]
    (∀ key, Stroke.Follows (ofKey key samples)) ∧ (Guard.empty.run samples).2 = samples := by
  intro first second samples
  have hfollows : ∀ key, Stroke.Follows (ofKey key samples) := by
    intro key
    by_cases hfirst : first.key = key
    . subst hfirst
      decide
    . by_cases hsecond : second.key = key
      . subst hsecond
        decide
      . have hphases : ofKey key samples = [] := by
          simp [ofKey, samples, hfirst, hsecond]
        rw [hphases]
        rfl
  exact ⟨hfollows, (mends_run samples).2.1 hfollows⟩

end Guard

end TouchPanel
