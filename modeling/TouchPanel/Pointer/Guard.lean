import TouchPanel.Pointer.Basic

/-!
This module contains the guard that makes every stream of samples a sequence of strokes: a contact
that goes down twice is lifted first, and what moves or lifts without being down is turned away.

The guard remembers the last sample of every contact that is down. Main statements:
`Guard.find?_put` and `Guard.find?_drop` say what it remembers after each change.
-/

namespace TouchPanel

inductive Verdict where
  | accepted (sample : Sample)
  /-- The contact was still down: it is lifted before it goes down again. -/
  | implicitRelease (release down : Sample)
  /-- The contact moved or lifted without being down. -/
  | rejected (sample : Sample)
  deriving DecidableEq, Repr

def Verdict.samples : Verdict → List Sample
  | .accepted sample => [sample]
  | .implicitRelease release down => [release, down]
  | .rejected _ => []

def Verdict.notice? : Verdict → Option String
  | .accepted _ => none
  | .implicitRelease _ s =>
    some s!"input: {s.origin.label} id={s.id} went down twice, releasing first"
  | .rejected s =>
    some s!"input: rejected {s.phase.label} for {s.origin.label} id={s.id} with no prior down"

/--
Contacts come in ascending order, each at most once.
-/
def Ascending (samples : List Sample) : Prop :=
  samples.Pairwise fun a b => a.key.rank < b.key.rank

/--
The last sample of every contact that is down.
-/
structure Guard where
  samples : List Sample
  ascending : Ascending samples

namespace Guard

def empty : Guard := ⟨[], List.Pairwise.nil⟩

instance : Inhabited Guard := ⟨empty⟩

/--
Puts a sample where its contact belongs, in place of an earlier sample of that contact.
-/
def place (sample : Sample) : List Sample → List Sample
  | [] => [sample]
  | last :: rest =>
    if sample.key.rank < last.key.rank then sample :: last :: rest
    else if sample.key.rank = last.key.rank then sample :: rest
    else last :: place sample rest

theorem mem_place {sample s : Sample} {samples : List Sample} (h : s ∈ place sample samples) :
    s = sample ∨ s ∈ samples := by
  induction samples with
  | nil => simpa [place] using h
  | cons last rest ih =>
    simp only [place] at h
    split at h
    . simpa using h
    . split at h
      . rcases List.mem_cons.1 h with h | h
        . exact .inl h
        . exact .inr (List.mem_cons_of_mem _ h)
      . rcases List.mem_cons.1 h with h | h
        . exact .inr (h ▸ List.mem_cons_self)
        . exact (ih h).imp id (List.mem_cons_of_mem _)

theorem ascending_place {sample : Sample} {samples : List Sample} (h : Ascending samples) :
    Ascending (place sample samples) := by
  induction samples with
  | nil => simp [place, Ascending]
  | cons last rest ih =>
    obtain ⟨hlast, hrest⟩ := List.pairwise_cons.1 h
    simp only [place]
    split
    . rename_i hlt
      refine List.pairwise_cons.2 ⟨fun s hs => ?_, h⟩
      rcases List.mem_cons.1 hs with hs | hs
      . exact hs ▸ hlt
      . exact Nat.lt_trans hlt (hlast s hs)
    . split
      . rename_i heq
        exact List.pairwise_cons.2 ⟨fun s hs => by rw [heq]; exact hlast s hs, hrest⟩
      . refine List.pairwise_cons.2 ⟨fun s hs => ?_, ih hrest⟩
        rcases mem_place hs with hs | hs
        . subst hs; omega
        . exact hlast s hs

def find? (guard : Guard) (key : Key) : Option Sample :=
  guard.samples.find? fun sample => sample.key == key

def isDown (guard : Guard) (key : Key) : Bool :=
  (guard.find? key).isSome

def put (guard : Guard) (sample : Sample) : Guard :=
  ⟨place sample guard.samples, ascending_place guard.ascending⟩

def drop (guard : Guard) (key : Key) : Guard :=
  ⟨guard.samples.filter fun sample => sample.key != key, guard.ascending.filter _⟩

def judge (guard : Guard) (sample : Sample) : Guard × Verdict :=
  match sample.phase, guard.find? sample.key with
  | .down, none => (guard.put sample, .accepted sample)
  | .down, some last =>
    (guard.put sample, .implicitRelease (last.lifted sample.time) sample)
  | .move, some _ => (guard.put sample, .accepted sample)
  | .up, some _ => (guard.drop sample.key, .accepted sample)
  | _, none => (guard, .rejected sample)

def release (guard : Guard) (time : UInt64) : List Sample :=
  guard.samples.map fun sample => sample.lifted time

/--
The samples that pass when a list of samples is judged one by one, and the guard after them.
-/
def run (guard : Guard) : List Sample → Guard × List Sample
  | [] => (guard, [])
  | sample :: rest =>
    let (guard, verdict) := guard.judge sample
    let (guard, out) := guard.run rest
    (guard, verdict.samples ++ out)

theorem find?_place (sample : Sample) (samples : List Sample) (h : Ascending samples) (key : Key) :
    (place sample samples).find? (fun s => s.key == key) =
      if sample.key = key then some sample else samples.find? (fun s => s.key == key) := by
  induction samples with
  | nil => by_cases hk : sample.key = key <;> simp [place, hk]
  | cons last rest ih =>
    obtain ⟨hlast, hrest⟩ := List.pairwise_cons.1 h
    simp only [place]
    split
    . by_cases hk : sample.key = key <;> simp [List.find?_cons, hk]
    . split
      . rename_i heq
        have hkey : sample.key = last.key := Key.rank_injective heq
        by_cases hk : sample.key = key
        . simp [hk]
        . simp [hk, hkey ▸ hk]
      . rename_i hlt hne
        by_cases hk : last.key = key
        . have : sample.key ≠ key := fun e => hne (by rw [e, hk])
          simp [hk, this]
        . rw [List.find?_cons_of_neg (by simpa using hk), ih hrest,
            List.find?_cons_of_neg (by simpa using hk)]

theorem find?_put (guard : Guard) (sample : Sample) (key : Key) :
    (guard.put sample).find? key = if sample.key = key then some sample else guard.find? key :=
  find?_place sample guard.samples guard.ascending key

theorem find?_drop (guard : Guard) (dropped key : Key) :
    (guard.drop dropped).find? key = if dropped = key then none else guard.find? key := by
  simp only [find?, drop, List.find?_filter]
  by_cases hk : dropped = key
  . subst hk
    simp only [if_true, List.find?_eq_none]
    intro s _
    by_cases hs : s.key = dropped <;> simp [hs]
  . simp only [if_neg hk]
    congr 1
    funext s
    by_cases hs : s.key = key
    . simp [hs, Ne.symm hk]
    . simp [hs]

theorem key_of_find? {guard : Guard} {key : Key} {sample : Sample}
    (h : guard.find? key = some sample) : sample.key = key := by
  simpa using List.find?_some h

end Guard

end TouchPanel
