import TouchPanel.Proofs.Inbox.Delivery

/-!
This module contains what becomes of deliveries that wait for room. Nothing is lost as long as the
inbox is open (`Inbox.Flows`). An inbox that is closed while it is full takes nothing more, but its
guard has already judged what is then lost (`Inbox.guard_of_cutOff`).
-/

namespace TouchPanel.Inbox

/--
A producer has put in some of what it had waiting and of what it has delivered since, in that order.
The guard knows all of it.
-/
structure Flows (inbox : Inbox) (waiting : List Event) (next : Inbox)
    (rest delivered : List Event) : Prop where
  queue : next.queue ++ rest = inbox.queue ++ waiting ++ delivered
  isOpen : next.isOpen = inbox.isOpen
  tracks : ∀ samples, inbox.guard.Tracks samples →
    next.guard.Tracks (samples ++ Event.samples delivered)

variable {inbox next : Inbox}

theorem flows_refl (inbox : Inbox) (waiting : List Event) :
    Flows inbox waiting inbox waiting [] := by
  constructor
  . rw [List.append_nil]
  . rfl
  . intro samples h
    rw [Event.samples_nil, List.append_nil]
    exact h

theorem queue_enqueue (hopen : inbox.isOpen = true) (events : List Event) :
    (inbox.enqueue events).1.queue ++ (inbox.enqueue events).2.rest = inbox.queue ++ events ∧
      (inbox.enqueue events).1.guard = inbox.guard ∧
      (inbox.enqueue events).1.isOpen = inbox.isOpen := by
  induction events generalizing inbox with
  | nil => exact ⟨rfl, rfl, rfl⟩
  | cons event events ih =>
    unfold enqueue
    split
    . next hroom =>
      generalize hnext : ({ inbox with
        queue := inbox.queue ++ [event]
        tally := inbox.tally.count event
        length_queue_le := by rw [List.length_append]; exact hroom } : Inbox) = next
      have hqueue : next.queue = inbox.queue ++ [event] := by rw [← hnext]
      have hguard : next.guard = inbox.guard := by rw [← hnext]
      have hstill : next.isOpen = inbox.isOpen := by rw [← hnext]
      obtain ⟨hqueue', hguard', hstill'⟩ := ih (hstill.trans hopen)
      refine ⟨?_, hguard'.trans hguard, hstill'.trans hstill⟩
      rw [hqueue', hqueue, List.append_assoc]
      rfl
    . exact ⟨rfl, rfl, rfl⟩

theorem flows_enqueue (hopen : inbox.isOpen = true) (waiting : List Event) :
    Flows inbox waiting (inbox.enqueue waiting).1 (inbox.enqueue waiting).2.rest [] := by
  obtain ⟨hqueue, hguard, hstill⟩ := queue_enqueue hopen waiting
  constructor
  . rw [List.append_nil]
    exact hqueue
  . exact hstill
  . intro samples h
    rw [hguard, Event.samples_nil, List.append_nil]
    exact h

theorem flows_push (hopen : inbox.isOpen = true) (event : Event) :
    Flows inbox [] (inbox.push event).1 (inbox.push event).2.rest (inbox.arrivals event) := by
  cases hsample : event.sample? with
  | some sample =>
    obtain rfl : event = .pointer sample := by
      cases event <;> simp_all [Event.sample?]
    obtain ⟨tally, hpush⟩ := push_pointer hopen sample
    rw [hpush]
    have hopen' : ({ inbox with guard := (inbox.guard.judge sample).1, tally } : Inbox).isOpen =
        true := hopen
    obtain ⟨hqueue, hguard, hstill⟩ := queue_enqueue hopen' (inbox.arrivals (.pointer sample))
    constructor
    . rw [List.append_nil]
      exact hqueue
    . exact hstill
    . intro samples h
      rw [hguard]
      unfold arrivals
      rw [Event.samples_map_pointer]
      apply Guard.tracks_judge h
  | none =>
    obtain ⟨hpush, harrivals⟩ := push_other hopen hsample
    rw [hpush]
    obtain ⟨hqueue, hguard, hstill⟩ := queue_enqueue hopen (inbox.arrivals event)
    constructor
    . rw [List.append_nil]
      exact hqueue
    . exact hstill
    . intro samples h
      rw [hguard, harrivals, Event.samples_singleton_of_none hsample, List.append_nil]
      exact h

theorem flows_of_passes (hopen : inbox.isOpen = true) {waiting : List Event}
    (h : Passes inbox next waiting) : ∃ delivered, Flows inbox [] next waiting delivered := by
  cases h with
  | rest => exact ⟨[], flows_refl inbox []⟩
  | push event => exact ⟨_, flows_push hopen event⟩

theorem enqueue_of_full (hfull : inbox.queue.length = capacity) (event : Event)
    (events : List Event) :
    inbox.enqueue (event :: events) =
      (inbox, if inbox.isOpen then .waiting (event :: events) else .closed) := by
  unfold enqueue
  rw [dif_neg (by omega)]
  split <;> rfl

theorem push_of_closed (hclosed : inbox.isOpen = false) (event : Event) :
    inbox.push event = (inbox, .closed) := by
  unfold push
  rw [hclosed]
  rfl

theorem inbox_enqueue_of_full (hfull : inbox.queue.length = capacity) (events : List Event) :
    (inbox.enqueue events).1 = inbox := by
  cases events with
  | nil => rfl
  | cons event events => rw [enqueue_of_full hfull]

theorem full_of_waiting {events rest : List Event} (h : (inbox.enqueue events).2 = .waiting rest) :
    (inbox.enqueue events).1.queue.length = capacity ∧ rest ≠ [] := by
  induction events generalizing inbox with
  | nil => contradiction
  | cons event events ih =>
    unfold enqueue at h ⊢
    split
    . next hroom =>
      rw [dif_pos hroom] at h
      exact ih h
    . next hroom =>
      rw [dif_neg hroom] at h
      split at h
      . next hopen =>
        obtain rfl := Delivery.waiting.inj h
        rw [if_pos hopen]
        have hle := inbox.length_queue_le
        exact ⟨by dsimp only; omega, List.cons_ne_nil _ _⟩
      . contradiction

theorem guard_push (hopen : inbox.isOpen = true) (sample : Sample) :
    (inbox.push (.pointer sample)).1.guard = (inbox.guard.judge sample).1 := by
  obtain ⟨tally, hpush⟩ := push_pointer hopen sample
  rw [hpush]
  generalize hjudged :
    ({ inbox with guard := (inbox.guard.judge sample).1, tally } : Inbox) = judged
  have hstill : judged.isOpen = true := by
    rw [← hjudged]
    exact hopen
  rw [(queue_enqueue hstill _).2.1, ← hjudged]

/--
A delivery that finds the inbox closed leaves no trace. One that waits when the inbox is closed is
given up, but its sample stays judged.
-/
theorem guard_of_cutOff (inbox : Inbox) (sample : Sample) :
    (inbox.isOpen = false → inbox.push (.pointer sample) = (inbox, .closed)) ∧
      ∀ rest, (inbox.push (.pointer sample)).2 = .waiting rest →
        (((inbox.push (.pointer sample)).1.setOpen false).enqueue rest).2 = .closed ∧
          (((inbox.push (.pointer sample)).1.setOpen false).enqueue rest).1.guard =
            (inbox.guard.judge sample).1 := by
  refine ⟨fun hclosed => push_of_closed hclosed _, ?_⟩
  intro rest hwaiting
  cases hopen : inbox.isOpen with
  | false =>
    rw [push_of_closed hopen] at hwaiting
    contradiction
  | true =>
    rw [← guard_push hopen]
    obtain ⟨tally, hpush⟩ := push_pointer hopen sample
    rw [hpush] at hwaiting ⊢
    obtain ⟨hfull, hrest⟩ := full_of_waiting hwaiting
    obtain ⟨event, events, rfl⟩ := List.exists_cons_of_ne_nil hrest
    generalize (Inbox.enqueue _ (inbox.arrivals (.pointer sample))).1 = next at hfull ⊢
    have hfull' : (next.setOpen false).queue.length = capacity := hfull
    rw [enqueue_of_full hfull']
    exact ⟨rfl, rfl⟩

end TouchPanel.Inbox
