import Mathlib.Data.List.Infix
import TouchPanel.Proofs.Producer.Waiting

/-!
This module contains what the producers do to the queue of an inbox: what is in it stays where it
is, and what comes in goes behind it (`Inbox.Keeps`). This needs no room and no open inbox, so it
holds of a producer that waits, and of one that is stopped while it waits.
-/

namespace TouchPanel

namespace Inbox

/--
All that was in the queue is still there, ahead of what has come in.
-/
structure Keeps (inbox next : Inbox) : Prop where
  queue : inbox.queue <+: next.queue
  isOpen : next.isOpen = inbox.isOpen

variable {inbox next last : Inbox}

theorem keeps_refl (inbox : Inbox) : Keeps inbox inbox := ⟨List.prefix_refl _, rfl⟩

theorem keeps_trans (h : Keeps inbox next) (hmore : Keeps next last) : Keeps inbox last :=
  ⟨h.queue.trans hmore.queue, hmore.isOpen.trans h.isOpen⟩

theorem keeps_of_grows {entered : List Event} (h : Grows inbox next entered) :
    Keeps inbox next := by
  constructor
  . rw [h.queue]
    apply List.prefix_append
  . exact h.isOpen

theorem keeps_enqueue (inbox : Inbox) (events : List Event) :
    Keeps inbox (inbox.enqueue events).1 := by
  induction events generalizing inbox with
  | nil => exact keeps_refl inbox
  | cons event events ih =>
    unfold enqueue
    split
    . apply keeps_trans _ (ih _)
      exact ⟨List.prefix_append _ _, rfl⟩
    . split <;> exact keeps_refl inbox

theorem keeps_push (inbox : Inbox) (event : Event) : Keeps inbox (inbox.push event).1 := by
  cases hopen : inbox.isOpen with
  | false =>
    rw [push_of_closed hopen]
    exact keeps_refl inbox
  | true =>
    cases hsample : event.sample? with
    | some sample =>
      obtain rfl : event = .pointer sample := by
        cases event <;> simp_all [Event.sample?]
      obtain ⟨tally, hpush⟩ := push_pointer hopen sample
      rw [hpush]
      have hkeeps := keeps_enqueue { inbox with guard := (inbox.guard.judge sample).1, tally }
        (inbox.arrivals (.pointer sample))
      exact ⟨hkeeps.queue, hkeeps.isOpen⟩
    | none =>
      rw [(push_other hopen hsample).1]
      apply keeps_enqueue

theorem keeps_of_passes {waiting : List Event} (h : Passes inbox next waiting) :
    Keeps inbox next := by
  cases h with
  | rest => exact keeps_refl inbox
  | push event => exact keeps_push inbox event

end Inbox

variable (now : UInt64) (inbox : Inbox)

namespace Reader

theorem keeps_step (reader : Reader) : inbox.Keeps (reader.step now inbox).2.1 := by
  by_cases hwaiting : reader.waiting = []
  . exact Inbox.keeps_of_passes (passes_step hwaiting now inbox)
  . unfold step
    split
    . exact Inbox.keeps_refl inbox
    . rw [if_pos (by simp [hwaiting])]
      apply Inbox.keeps_enqueue

theorem keeps_finish (reader : Reader) : inbox.Keeps (reader.finish now inbox).2 := by
  induction hsize : reader.remaining using Nat.strongRecOn generalizing reader inbox with
  | ind size ih =>
    subst hsize
    have hkeeps := keeps_step now inbox reader
    unfold finish
    split
    . next hless => exact Inbox.keeps_trans hkeeps (ih _ hless _ _ rfl)
    . exact hkeeps

end Reader

namespace Generator

theorem keeps_step (generator : Generator) (script : Script) :
    inbox.Keeps (generator.step now script inbox).2.2 := by
  by_cases hwaiting : generator.waiting = []
  . exact Inbox.keeps_of_passes (passes_step hwaiting now script inbox)
  . unfold step
    rw [if_pos (by simp [hwaiting])]
    apply Inbox.keeps_enqueue

theorem keeps_finish (generator : Generator) (script : Script) :
    inbox.Keeps (generator.finish now script inbox).2 := by
  induction hsize : generator.remaining script using Nat.strongRecOn
    generalizing generator script inbox with
  | ind size ih =>
    subst hsize
    have hkeeps := keeps_step now inbox generator script
    unfold finish
    split
    . next hless => exact Inbox.keeps_trans hkeeps (ih _ hless _ _ _ rfl)
    . exact hkeeps

end Generator

namespace Panel

theorem keeps_work (panel : Panel) : inbox.Keeps (panel.work now inbox).2 := by
  unfold work
  cases panel.worker with
  | none => exact Inbox.keeps_refl inbox
  | some worker => exact worker.keeps_step now inbox

theorem keeps_stop (panel : Panel) : inbox.Keeps (panel.stop now inbox).2 := by
  unfold stop
  cases panel.worker with
  | none => exact Inbox.keeps_refl inbox
  | some worker => exact Reader.keeps_finish now inbox _

end Panel

namespace Synthesizer

theorem keeps_work (synthesizer : Synthesizer) : inbox.Keeps (synthesizer.work now inbox).2 := by
  unfold work
  cases synthesizer.worker with
  | none => exact Inbox.keeps_refl inbox
  | some worker => exact worker.keeps_step now inbox synthesizer.script

theorem keeps_stop (synthesizer : Synthesizer) : inbox.Keeps (synthesizer.stop now inbox).2 := by
  unfold stop
  cases synthesizer.worker with
  | none => exact Inbox.keeps_refl inbox
  | some worker => exact Generator.keeps_finish now inbox _ _

end Synthesizer

namespace Producer

theorem keeps_pull (producer : Producer) : inbox.Keeps (producer.pull now inbox).2 := by
  obtain ⟨entered, hgrows⟩ := producer.grows_pull now inbox
  exact Inbox.keeps_of_grows hgrows

theorem keeps_work (producer : Producer) : inbox.Keeps (producer.work now inbox).2 := by
  cases producer with
  | host => exact Inbox.keeps_refl inbox
  | panel p => exact p.keeps_work now inbox
  | synthetic synthesizer => exact synthesizer.keeps_work now inbox

theorem keeps_stop (producer : Producer) : inbox.Keeps (producer.stop now inbox).2 := by
  cases producer with
  | host => exact Inbox.keeps_refl inbox
  | panel p => exact p.keeps_stop now inbox
  | synthetic synthesizer => exact synthesizer.keeps_stop now inbox

end Producer

end TouchPanel
