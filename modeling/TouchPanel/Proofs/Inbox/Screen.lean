import TouchPanel.Proofs.Inbox.Delivery
import TouchPanel.Proofs.Pointer.Untimed

/-!
This module contains what a guard lets pass of events (`Guard.screenAll`): samples pass it as
`Guard.judge` says, and all else as it is.

An inbox with room puts in exactly that (`Inbox.push_of_hasRoom`). The times of the events have no
part in it (`Guard.screenAll_untimed`), and events whose samples are strokes already pass unchanged
(`Guard.screenAll_of_strokes`).
-/

namespace TouchPanel

def Event.untimed (event : Event) : Event := event.withTime 0

theorem Event.map_untimed_pointer (samples : List Sample) :
    (samples.map Event.pointer).map untimed = (samples.map Sample.untimed).map .pointer := by
  rw [List.map_map, List.map_map]
  rfl

namespace Guard

def screen (guard : Guard) : Event → Guard × List Event
  | .pointer sample => ((guard.judge sample).1, (guard.judge sample).2.samples.map .pointer)
  | other => (guard, [other])

def screenAll (guard : Guard) : List Event → Guard × List Event
  | [] => (guard, [])
  | event :: events =>
    let (guard, passed) := guard.screen event
    let (guard, more) := guard.screenAll events
    (guard, passed ++ more)

variable {guard : Guard}

theorem screenAll_append (guard : Guard) (events more : List Event) :
    guard.screenAll (events ++ more) =
      (((guard.screenAll events).1.screenAll more).1,
        (guard.screenAll events).2 ++ ((guard.screenAll events).1.screenAll more).2) := by
  induction events generalizing guard with
  | nil => rfl
  | cons event events ih => simp [screenAll, ih]

theorem screenAll_singleton (guard : Guard) (event : Event) :
    guard.screenAll [event] = guard.screen event := by
  simp [screenAll]

theorem screen_untimed (guard : Guard) (event : Event) :
    guard.untimed.screen event.untimed =
      ((guard.screen event).1.untimed, (guard.screen event).2.map Event.untimed) := by
  cases event with
  | pointer sample =>
    obtain ⟨hguard, hsamples⟩ := guard.judge_untimed sample
    change ((guard.untimed.judge sample.untimed).1, _) = _
    unfold screen
    dsimp only
    rw [Event.map_untimed_pointer, hguard, ← hsamples]
    rfl
  | mouse => rfl
  | key => rfl

theorem screenAll_untimed (guard : Guard) (events : List Event) :
    guard.untimed.screenAll (events.map Event.untimed) =
      ((guard.screenAll events).1.untimed, (guard.screenAll events).2.map Event.untimed) := by
  induction events generalizing guard with
  | nil => rfl
  | cons event events ih =>
    rw [List.map_cons]
    unfold screenAll
    dsimp only
    rw [screen_untimed, ih, List.map_append]

theorem screenAll_of_verdicts {events : List Event}
    (h : guard.verdicts (Event.samples events) = (Event.samples events).map .accepted) :
    (guard.screenAll events).2 = events := by
  induction events generalizing guard with
  | nil => rfl
  | cons event events ih =>
    unfold screenAll
    dsimp only
    cases event with
    | pointer sample =>
      have hsamples : Event.samples (.pointer sample :: events) = sample :: Event.samples events :=
        rfl
      rw [hsamples] at h
      unfold verdicts at h
      obtain ⟨hverdict, hrest⟩ := List.cons.inj h
      unfold screen
      dsimp only
      rw [hverdict, ih hrest]
      rfl
    | mouse | key =>
      have hrest : (guard.screenAll events).2 = events := ih h
      unfold screen
      dsimp only
      rw [hrest]
      rfl

theorem screenAll_of_strokes {events : List Event}
    (h : ∀ key, (Stroke.run (guard.isDown key)
      (Stroke.ofKey key (Event.samples events))).isSome) :
    (guard.screenAll events).2 = events :=
  screenAll_of_verdicts (run_of_strokes h).1

end Guard

namespace Inbox

variable {inbox : Inbox}

theorem arrivals_eq_screen (inbox : Inbox) (event : Event) :
    inbox.arrivals event = (inbox.guard.screen event).2 := by
  cases event <;> rfl

theorem push_of_hasRoom (hopen : inbox.isOpen = true) (hroom : inbox.hasRoom 2 = true)
    (event : Event) :
    (inbox.push event).2 = .done ∧
      (inbox.push event).1.queue = inbox.queue ++ (inbox.guard.screen event).2 ∧
      (inbox.push event).1.guard = (inbox.guard.screen event).1 ∧
      (inbox.push event).1.isOpen = true := by
  have hlength := inbox.length_arrivals_le event
  have hfits : inbox.hasRoom (inbox.arrivals event).length = true := by
    unfold hasRoom at hroom ⊢
    rw [decide_eq_true_iff] at hroom ⊢
    omega
  rw [← arrivals_eq_screen]
  cases hsample : event.sample? with
  | some sample =>
    obtain rfl : event = .pointer sample := by
      cases event <;> simp_all [Event.sample?]
    obtain ⟨tally, hpush⟩ := push_pointer hopen sample
    rw [hpush]
    rcases enqueue_cases { inbox with guard := (inbox.guard.judge sample).1, tally } hopen
      (inbox.arrivals (.pointer sample)) with ⟨hdone, hqueue, hguard, hstill⟩ | ⟨hfull, -⟩
    . exact ⟨hdone, hqueue, hguard, hstill.trans hopen⟩
    . exact absurd (hfull.symm.trans hfits) Bool.false_ne_true
  | none =>
    obtain ⟨hpush, -⟩ := push_other hopen hsample
    rw [hpush]
    rcases enqueue_cases inbox hopen (inbox.arrivals event) with
      ⟨hdone, hqueue, hguard, hstill⟩ | ⟨hfull, -⟩
    . refine ⟨hdone, hqueue, ?_, hstill.trans hopen⟩
      rw [hguard]
      cases event with
      | pointer => contradiction
      | mouse => rfl
      | key => rfl
    . exact absurd (hfull.symm.trans hfits) Bool.false_ne_true

end Inbox

end TouchPanel
