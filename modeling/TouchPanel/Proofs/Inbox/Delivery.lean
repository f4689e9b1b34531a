import TouchPanel.Inbox.Basic
import TouchPanel.Proofs.Pointer.Guard

/-!
This module contains what one delivery does to an inbox. Main statement: `Inbox.push_cases`. An
inbox that is closed stays as it is, one with room takes in all that the guard lets through
(`Inbox.Grows`), and otherwise the producer is left waiting.
-/

namespace TouchPanel

def Event.samples (events : List Event) : List Sample :=
  events.filterMap Event.sample?

theorem Event.samples_nil : Event.samples [] = [] := rfl

theorem Event.samples_singleton_of_none {event : Event} (h : event.sample? = none) :
    Event.samples [event] = [] := by
  unfold Event.samples
  rw [List.filterMap_cons_none h, List.filterMap_nil]

theorem Event.samples_append (events more : List Event) :
    Event.samples (events ++ more) = Event.samples events ++ Event.samples more := by
  unfold Event.samples
  rw [List.filterMap_append]

theorem Event.samples_map_pointer (samples : List Sample) :
    Event.samples (samples.map .pointer) = samples := by
  unfold Event.samples
  rw [List.filterMap_map]
  exact List.filterMap_some

theorem Event.map_pointer_samples {events : List Event}
    (h : ∀ event ∈ events, ∃ sample, event = .pointer sample) :
    (Event.samples events).map .pointer = events := by
  induction events with
  | nil => rfl
  | cons event events ih =>
    obtain ⟨sample, rfl⟩ := h event List.mem_cons_self
    have htail := ih fun event hmem => h event (List.mem_cons_of_mem _ hmem)
    unfold Event.samples at htail ⊢
    have hhead : (Event.pointer sample).sample? = some sample := rfl
    rw [List.filterMap_cons_some hhead, List.map_cons, htail]

def Delivery.rest : Delivery → List Event
  | .waiting events => events
  | _ => []

namespace Inbox

def arrivals (inbox : Inbox) : Event → List Event
  | .pointer sample => (inbox.guard.judge sample).2.samples.map .pointer
  | other => [other]

/--
Some events have come in, behind those that were there.
-/
structure Grows (inbox next : Inbox) (entered : List Event) : Prop where
  queue : next.queue = inbox.queue ++ entered
  isOpen : next.isOpen = inbox.isOpen
  tracks : ∀ samples, inbox.guard.Tracks samples →
    next.guard.Tracks (samples ++ Event.samples entered)

variable {inbox next last : Inbox} {entered more : List Event}

theorem grows_refl (inbox : Inbox) : Grows inbox inbox [] := by
  constructor
  . exact (List.append_nil _).symm
  . rfl
  . intro samples h
    rw [Event.samples_nil, List.append_nil]
    exact h

theorem grows_trans (h : Grows inbox next entered) (hmore : Grows next last more) :
    Grows inbox last (entered ++ more) := by
  constructor
  . rw [hmore.queue, h.queue, List.append_assoc]
  . rw [hmore.isOpen, h.isOpen]
  . intro samples hsamples
    rw [Event.samples_append, ← List.append_assoc]
    apply hmore.tracks
    apply h.tracks samples hsamples

theorem enqueue_cases (inbox : Inbox) (hopen : inbox.isOpen = true) (events : List Event) :
    ((inbox.enqueue events).2 = .done ∧
      (inbox.enqueue events).1.queue = inbox.queue ++ events ∧
      (inbox.enqueue events).1.guard = inbox.guard ∧
      (inbox.enqueue events).1.isOpen = inbox.isOpen) ∨
    (inbox.hasRoom events.length = false ∧
      ∃ event rest, (inbox.enqueue events).2 = .waiting (event :: rest)) := by
  induction events generalizing inbox with
  | nil =>
    apply Or.inl
    exact ⟨rfl, (List.append_nil _).symm, rfl, rfl⟩
  | cons event events ih =>
    unfold enqueue
    split
    . next hroom =>
      -- The first event goes in, and the others find one place less.
      generalize hnext : ({ inbox with
        queue := inbox.queue ++ [event]
        tally := inbox.tally.count event
        length_queue_le := by rw [List.length_append]; exact hroom } : Inbox) = next
      have hqueue : next.queue = inbox.queue ++ [event] := by rw [← hnext]
      have hguard : next.guard = inbox.guard := by rw [← hnext]
      have hstill : next.isOpen = inbox.isOpen := by rw [← hnext]
      rcases ih next (hstill.trans hopen) with ⟨hdone, hqueue', hguard', hopen'⟩ | ⟨hfull, hwaiting⟩
      . apply Or.inl
        refine ⟨hdone, ?_, hguard'.trans hguard, hopen'.trans hstill⟩
        rw [hqueue', hqueue, List.append_assoc]
        rfl
      . apply Or.inr
        refine ⟨?_, hwaiting⟩
        unfold hasRoom at hfull ⊢
        rw [hqueue, List.length_append, List.length_singleton] at hfull
        rw [List.length_cons, ← hfull]
        congr 2
        omega
    . next hroom =>
      apply Or.inr
      refine ⟨?_, event, events, rfl⟩
      unfold hasRoom
      rw [List.length_cons, decide_eq_false_iff_not]
      omega

theorem enqueue_ne_closed (hopen : inbox.isOpen = true) (events : List Event) :
    (inbox.enqueue events).2 ≠ .closed := by
  intro hclosed
  rcases inbox.enqueue_cases hopen events with ⟨hdone, -⟩ | ⟨-, first, rest, hwaiting⟩
  . rw [hdone] at hclosed
    contradiction
  . rw [hwaiting] at hclosed
    contradiction

theorem push_pointer (hopen : inbox.isOpen = true) (sample : Sample) :
    ∃ tally, inbox.push (.pointer sample) =
      { inbox with guard := (inbox.guard.judge sample).1, tally }.enqueue
        (inbox.arrivals (.pointer sample)) := by
  unfold push
  rw [hopen]
  exact ⟨_, rfl⟩

theorem push_other (hopen : inbox.isOpen = true) {event : Event} (hevent : event.sample? = none) :
    inbox.push event = inbox.enqueue (inbox.arrivals event) ∧ inbox.arrivals event = [event] := by
  unfold push
  rw [hopen]
  cases event with
  | pointer => contradiction
  | mouse => exact ⟨rfl, rfl⟩
  | key => exact ⟨rfl, rfl⟩

theorem push_cases (inbox : Inbox) (event : Event) :
    (inbox.isOpen = false ∧ inbox.push event = (inbox, .closed)) ∨
    ((inbox.push event).2 = .done ∧ Grows inbox (inbox.push event).1 (inbox.arrivals event)) ∨
    (inbox.isOpen = true ∧ inbox.hasRoom (inbox.arrivals event).length = false ∧
      ∃ first rest, (inbox.push event).2 = .waiting (first :: rest)) := by
  cases hopen : inbox.isOpen with
  | false =>
    apply Or.inl
    refine ⟨rfl, ?_⟩
    unfold push
    rw [hopen]
    rfl
  | true =>
    apply Or.inr
    cases hsample : event.sample? with
    | some sample =>
      obtain rfl : event = .pointer sample := by
        cases event <;> simp_all [Event.sample?]
      obtain ⟨tally, hpush⟩ := push_pointer hopen sample
      rw [hpush]
      rcases enqueue_cases { inbox with guard := (inbox.guard.judge sample).1, tally } hopen
        (inbox.arrivals (.pointer sample)) with ⟨hdone, hqueue, hguard, hstill⟩ | ⟨hfull, hwaiting⟩
      . apply Or.inl
        refine ⟨hdone, hqueue, hstill, ?_⟩
        intro samples h
        rw [hguard]
        unfold arrivals
        rw [Event.samples_map_pointer]
        apply Guard.tracks_judge h
      . exact Or.inr ⟨rfl, hfull, hwaiting⟩
    | none =>
      obtain ⟨hpush, harrivals⟩ := push_other hopen hsample
      rw [hpush]
      rcases enqueue_cases inbox hopen (inbox.arrivals event) with
        ⟨hdone, hqueue, hguard, hstill⟩ | ⟨hfull, hwaiting⟩
      . apply Or.inl
        refine ⟨hdone, hqueue, hstill, ?_⟩
        intro samples h
        rw [hguard, harrivals, Event.samples_singleton_of_none hsample, List.append_nil]
        exact h
      . exact Or.inr ⟨rfl, hfull, hwaiting⟩

theorem push_ne_closed (hopen : inbox.isOpen = true) (event : Event) :
    (inbox.push event).2 ≠ .closed := by
  intro hclosed
  rcases inbox.push_cases event with ⟨hshut, -⟩ | ⟨hdone, -⟩ | ⟨-, -, first, rest, hwaiting⟩
  . rw [hopen] at hshut
    contradiction
  . rw [hdone] at hclosed
    contradiction
  . rw [hwaiting] at hclosed
    contradiction

theorem grows_push_of_done {event : Event} (h : (inbox.push event).2 = .done) :
    Grows inbox (inbox.push event).1 (inbox.arrivals event) := by
  rcases inbox.push_cases event with ⟨-, hpush⟩ | ⟨-, hgrows⟩ | ⟨-, -, first, rest, hwaiting⟩
  . rw [hpush] at h
    contradiction
  . exact hgrows
  . rw [hwaiting] at h
    contradiction

theorem arrivals_of_accepted {sample : Sample}
    (h : (inbox.guard.judge sample).2 = .accepted sample) :
    inbox.arrivals (.pointer sample) = [.pointer sample] := by
  unfold arrivals
  dsimp only
  rw [h]
  rfl

theorem length_arrivals_le (inbox : Inbox) (event : Event) : (inbox.arrivals event).length ≤ 2 := by
  cases event with
  | pointer sample =>
    unfold arrivals
    rw [List.length_map]
    cases (inbox.guard.judge sample).2 <;> simp [Verdict.samples]
  | mouse => exact Nat.le_succ 1
  | key => exact Nat.le_succ 1

theorem rest_push_of_hasRoom (hroom : inbox.hasRoom 2 = true) (event : Event) :
    (inbox.push event).2.rest = [] := by
  rcases inbox.push_cases event with ⟨-, hpush⟩ | ⟨hdone, -⟩ | ⟨-, hfull, -⟩
  . rw [hpush]
    rfl
  . rw [hdone]
    rfl
  . have := inbox.length_arrivals_le event
    unfold hasRoom at hroom hfull
    rw [decide_eq_true_iff] at hroom
    rw [decide_eq_false_iff_not] at hfull
    omega

/--
A producer has delivered one event at most, and may be left with some that still wait.
-/
inductive Passes (inbox : Inbox) : Inbox → List Event → Prop where
  | rest : Passes inbox inbox []
  | push (event : Event) : Passes inbox (inbox.push event).1 (inbox.push event).2.rest

theorem grows_of_passes (h : Passes inbox next []) : ∃ entered, Grows inbox next entered := by
  generalize hwaiting : ([] : List Event) = waiting at h
  cases h with
  | rest => exact ⟨[], grows_refl inbox⟩
  | push event =>
    rcases push_cases inbox event with ⟨-, hpush⟩ | ⟨-, hgrows⟩ | ⟨-, -, first, rest, hpush⟩
    . rw [hpush]
      exact ⟨[], grows_refl inbox⟩
    . exact ⟨_, hgrows⟩
    . rw [hpush] at hwaiting
      contradiction

theorem eq_of_passes (hclosed : inbox.isOpen = false) {waiting : List Event}
    (h : Passes inbox next waiting) : next = inbox ∧ waiting = [] := by
  cases h with
  | rest => exact ⟨rfl, rfl⟩
  | push event =>
    have hpush : inbox.push event = (inbox, .closed) := by
      unfold push
      rw [hclosed]
      rfl
    rw [hpush]
    exact ⟨rfl, rfl⟩

end Inbox

end TouchPanel
