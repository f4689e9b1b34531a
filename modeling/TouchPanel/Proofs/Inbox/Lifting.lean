import TouchPanel.Proofs.Inbox.Waiting
import TouchPanel.Proofs.Pointer.Apart

/-!
This module contains deliveries that do nothing to a contact but lift it (`Inbox.Lifts`). However
many of them there are, and whoever makes them, a contact that was down gets one up at most, since
the guard turns away the others.
-/

namespace TouchPanel

open Stroke (ofKey)

namespace Guard

/--
Each contact is as it was and has no samples, or it was down and has come up, by a single sample.
-/
def Lifts (guard next : Guard) (samples : List Sample) : Prop :=
  ∀ key,
    (ofKey key samples = [] ∧ next.isDown key = guard.isDown key) ∨
      ofKey key samples = [.up] ∧ guard.isDown key = true ∧ next.isDown key = false

/--
Each contact that is down gets one up, and no other contact has a sample.
-/
def LiftsAll (guard : Guard) (samples : List Sample) : Prop :=
  ∀ key, ofKey key samples = if guard.isDown key = true then [.up] else []

variable {guard next last : Guard} {samples more : List Sample}

theorem lifts_refl (guard : Guard) : Lifts guard guard [] := fun _ => .inl ⟨rfl, rfl⟩

theorem lifts_trans (h : Lifts guard next samples) (hmore : Lifts next last more) :
    Lifts guard last (samples ++ more) := by
  intro key
  rw [Stroke.ofKey_append]
  rcases h key with ⟨hnone, hsame⟩ | ⟨hup, hdown, hlifted⟩
  . rw [hnone, List.nil_append, ← hsame]
    exact hmore key
  . rcases hmore key with ⟨hnone, hsame⟩ | ⟨-, hagain, -⟩
    . rw [hup, hnone]
      exact .inr ⟨rfl, hdown, hsame.trans hlifted⟩
    . rw [hlifted] at hagain
      contradiction

theorem lifts_judge (guard : Guard) {sample : Sample} (hup : sample.phase = .up) :
    Lifts guard (guard.judge sample).1 (guard.judge sample).2.samples := by
  intro key
  rw [Stroke.ofKey_eq_map, samplesOf_judge, isDown_fst_judge]
  split
  . next hkey =>
    subst hkey
    rw [snd_judge, hup]
    unfold Verdict.of isDown
    rw [hup]
    cases guard.find? sample.key with
    | none => exact .inl ⟨rfl, rfl⟩
    | some last => exact .inr ⟨congrArg (fun phase => [phase]) hup, rfl, rfl⟩
  . exact .inl ⟨rfl, rfl⟩

theorem isDown_judge_of_up (guard : Guard) {sample : Sample} (hup : sample.phase = .up) :
    (guard.judge sample).1.isDown sample.key = false := by
  rw [isDown_fst_judge, if_pos rfl, hup]
  rfl

theorem lifts_release (guard : Guard) (time : UInt64) : Lifts guard .empty (guard.release time) := by
  intro key
  rw [Stroke.ofKey_eq_map, samplesOf_release]
  unfold isDown
  cases guard.find? key with
  | none => exact .inl ⟨rfl, rfl⟩
  | some last => exact .inr ⟨rfl, rfl, rfl⟩

theorem isDown_of_lifts (h : Lifts guard next samples) {key : Key} (hup : guard.isDown key = false) :
    next.isDown key = false := by
  rcases h key with ⟨-, hsame⟩ | ⟨-, -, hlifted⟩
  . exact hsame.trans hup
  . exact hlifted

theorem liftsAll_of_lifts (h : Lifts guard next samples) (hup : ∀ key, next.isDown key = false) :
    LiftsAll guard samples := by
  intro key
  rcases h key with ⟨hnone, hsame⟩ | ⟨hone, hdown, -⟩
  . rw [hnone, ← hsame, hup, if_neg Bool.false_ne_true]
  . rw [hone, if_pos hdown]

end Guard

namespace Inbox

structure Lifts (inbox next : Inbox) (entered : List Event) : Prop where
  queue : next.queue = inbox.queue ++ entered
  isOpen : next.isOpen = inbox.isOpen
  guard : inbox.guard.Lifts next.guard (Event.samples entered)

variable {inbox : Inbox}

theorem lifts_refl (inbox : Inbox) : Lifts inbox inbox [] :=
  ⟨(List.append_nil _).symm, rfl, Guard.lifts_refl _⟩

theorem queue_push_of_rest (hopen : inbox.isOpen = true) {event : Event}
    (hrest : (inbox.push event).2.rest = []) :
    (inbox.push event).1.queue = inbox.queue ++ inbox.arrivals event := by
  rcases inbox.push_cases event with ⟨hclosed, -⟩ | ⟨-, hgrows⟩ | ⟨-, -, first, rest, hwaiting⟩
  . rw [hopen] at hclosed
    contradiction
  . exact hgrows.queue
  . rw [hwaiting] at hrest
    contradiction

theorem lifts_push_of_up (hopen : inbox.isOpen = true) {sample : Sample}
    (hup : sample.phase = .up) (hrest : (inbox.push (.pointer sample)).2.rest = []) :
    Lifts inbox (inbox.push (.pointer sample)).1 (inbox.arrivals (.pointer sample)) := by
  constructor
  . exact queue_push_of_rest hopen hrest
  . exact (flows_push hopen _).isOpen
  . rw [guard_push hopen]
    unfold arrivals
    rw [Event.samples_map_pointer]
    exact inbox.guard.lifts_judge hup

theorem guard_push_of_other (hopen : inbox.isOpen = true) {event : Event}
    (hevent : event.sample? = none) : (inbox.push event).1.guard = inbox.guard := by
  rw [(push_other hopen hevent).1, (queue_enqueue hopen _).2.1]

theorem lifts_push_of_other (hopen : inbox.isOpen = true) {event : Event}
    (hevent : event.sample? = none) (hrest : (inbox.push event).2.rest = []) :
    Lifts inbox (inbox.push event).1 (inbox.arrivals event) := by
  constructor
  . exact queue_push_of_rest hopen hrest
  . exact (flows_push hopen _).isOpen
  . rw [guard_push_of_other hopen hevent, (push_other hopen hevent).2,
      Event.samples_singleton_of_none hevent]
    exact Guard.lifts_refl _

end Inbox

end TouchPanel
