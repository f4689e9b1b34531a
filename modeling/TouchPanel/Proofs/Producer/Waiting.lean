import TouchPanel.Proofs.Inbox.Waiting
import TouchPanel.Proofs.Producer.Delivery

/-!
This module contains what the producers do while they wait for room: what they have waiting goes in
before anything else (`Producer.flows_work`), and all of it is given up when the inbox is closed
while it is full (`Producer.stop_of_full`).
-/

namespace TouchPanel

variable {inbox : Inbox}

namespace Reader

theorem flows_step (reader : Reader) (now : UInt64) (hopen : inbox.isOpen = true) :
    ∃ delivered, inbox.Flows reader.waiting (reader.step now inbox).2.1
      (reader.step now inbox).1.waiting delivered := by
  by_cases hwaiting : reader.waiting = []
  . rw [hwaiting]
    exact Inbox.flows_of_passes hopen (passes_step hwaiting now inbox)
  . unfold step
    split
    . exact ⟨[], Inbox.flows_refl inbox _⟩
    . rw [if_pos (by simp [hwaiting])]
      dsimp only
      rw [waiting_settle]
      exact ⟨[], Inbox.flows_enqueue hopen _⟩

theorem step_of_full (reader : Reader) (now : UInt64) (hclosed : inbox.isOpen = false)
    (hfull : inbox.queue.length = Inbox.capacity) : (reader.step now inbox).2.1 = inbox := by
  by_cases hwaiting : reader.waiting = []
  . exact (Inbox.eq_of_passes hclosed (passes_step hwaiting now inbox)).1
  . unfold step
    split
    . rfl
    . rw [if_pos (by simp [hwaiting])]
      exact Inbox.inbox_enqueue_of_full hfull _

theorem finish_of_full (reader : Reader) (now : UInt64) (hclosed : inbox.isOpen = false)
    (hfull : inbox.queue.length = Inbox.capacity) : (reader.finish now inbox).2 = inbox := by
  induction hsize : reader.remaining using Nat.strongRecOn generalizing reader with
  | ind size ih =>
    subst hsize
    have hsame := step_of_full reader now hclosed hfull
    unfold finish
    split
    . next hless =>
      rw [hsame]
      exact ih _ hless _ rfl
    . exact hsame

end Reader

namespace Generator

theorem flows_step (generator : Generator) (now : UInt64) (script : Script)
    (hopen : inbox.isOpen = true) :
    ∃ delivered, inbox.Flows generator.waiting (generator.step now script inbox).2.2
      (generator.step now script inbox).1.waiting delivered := by
  by_cases hwaiting : generator.waiting = []
  . rw [hwaiting]
    exact Inbox.flows_of_passes hopen (passes_step hwaiting now script inbox)
  . unfold step
    rw [if_pos (by simp [hwaiting])]
    dsimp only
    rw [waiting_settle]
    exact ⟨[], Inbox.flows_enqueue hopen _⟩

theorem step_of_full (generator : Generator) (now : UInt64) (script : Script)
    (hclosed : inbox.isOpen = false) (hfull : inbox.queue.length = Inbox.capacity) :
    (generator.step now script inbox).2.2 = inbox := by
  by_cases hwaiting : generator.waiting = []
  . exact (Inbox.eq_of_passes hclosed (passes_step hwaiting now script inbox)).1
  . unfold step
    rw [if_pos (by simp [hwaiting])]
    exact Inbox.inbox_enqueue_of_full hfull _

theorem finish_of_full (generator : Generator) (now : UInt64) (script : Script)
    (hclosed : inbox.isOpen = false) (hfull : inbox.queue.length = Inbox.capacity) :
    (generator.finish now script inbox).2 = inbox := by
  induction hsize : generator.remaining script using Nat.strongRecOn
    generalizing generator script with
  | ind size ih =>
    subst hsize
    have hsame := step_of_full generator now script hclosed hfull
    unfold finish
    split
    . next hless =>
      rw [hsame]
      exact ih _ hless _ _ rfl
    . exact hsame

end Generator

namespace Panel

theorem flows_work (panel : Panel) (now : UInt64) (hopen : inbox.isOpen = true) :
    ∃ delivered, inbox.Flows panel.waiting (panel.work now inbox).2
      (panel.work now inbox).1.waiting delivered := by
  unfold work waiting
  cases hworker : panel.worker with
  | none =>
    dsimp only
    rw [hworker]
    exact ⟨[], Inbox.flows_refl inbox _⟩
  | some worker => exact worker.flows_step now hopen

theorem stop_of_full (panel : Panel) (now : UInt64) (hclosed : inbox.isOpen = false)
    (hfull : inbox.queue.length = Inbox.capacity) : (panel.stop now inbox).2 = inbox := by
  unfold stop
  cases panel.worker with
  | none => rfl
  | some worker => exact Reader.finish_of_full _ now hclosed hfull

theorem worker_stop (panel : Panel) (now : UInt64) (inbox : Inbox) :
    (panel.stop now inbox).1.worker = none := by
  unfold stop
  cases hworker : panel.worker with
  | none => exact hworker
  | some worker => rfl

theorem worker_prepare {panel prepared : Panel} {settings : Settings}
    (h : panel.prepare settings = .ok prepared) : prepared.worker = panel.worker := by
  obtain ⟨path, device, capabilities, -, -, rfl⟩ := prepare_eq_ok h
  rfl

end Panel

namespace Synthesizer

theorem flows_work (synthesizer : Synthesizer) (now : UInt64) (hopen : inbox.isOpen = true) :
    ∃ delivered, inbox.Flows synthesizer.waiting (synthesizer.work now inbox).2
      (synthesizer.work now inbox).1.waiting delivered := by
  unfold work waiting
  cases hworker : synthesizer.worker with
  | none =>
    dsimp only
    rw [hworker]
    exact ⟨[], Inbox.flows_refl inbox _⟩
  | some worker => exact worker.flows_step now synthesizer.script hopen

theorem stop_of_full (synthesizer : Synthesizer) (now : UInt64) (hclosed : inbox.isOpen = false)
    (hfull : inbox.queue.length = Inbox.capacity) : (synthesizer.stop now inbox).2 = inbox := by
  unfold stop
  cases synthesizer.worker with
  | none => rfl
  | some worker => exact Generator.finish_of_full _ now _ hclosed hfull

theorem worker_stop (synthesizer : Synthesizer) (now : UInt64) (inbox : Inbox) :
    (synthesizer.stop now inbox).1.worker = none := by
  unfold stop
  cases hworker : synthesizer.worker with
  | none => exact hworker
  | some worker => rfl

theorem worker_prepare {synthesizer prepared : Synthesizer} {settings : Settings}
    (h : synthesizer.prepare settings = .ok prepared) : prepared.worker = synthesizer.worker := by
  unfold prepare at h
  split at h
  . contradiction
  . obtain rfl := Except.ok.inj h
    rfl

end Synthesizer

namespace Producer

def IsIdle : Producer → Prop
  | host _ => True
  | panel p => p.worker = none
  | synthetic synthesizer => synthesizer.worker = none

variable {producer : Producer}

theorem waiting_of_isIdle (hidle : producer.IsIdle) : producer.waiting = [] := by
  unfold waiting
  cases producer with
  | host => rfl
  | panel p =>
    dsimp only
    unfold Panel.waiting
    rw [hidle]
    rfl
  | synthetic synthesizer =>
    dsimp only
    unfold Synthesizer.waiting
    rw [hidle]
    rfl

theorem work_of_isIdle (hidle : producer.IsIdle) (now : UInt64) (inbox : Inbox) :
    producer.work now inbox = (producer, inbox) := by
  unfold work
  cases producer with
  | host => rfl
  | panel p =>
    dsimp only
    unfold Panel.work
    rw [hidle]
  | synthetic synthesizer =>
    dsimp only
    unfold Synthesizer.work
    rw [hidle]

theorem isIdle_new (kind : ProducerKind) (pump : Option Host.Pump) (opener : Device.Opener) :
    (new kind pump opener).IsIdle := by
  cases kind
  . trivial
  . rfl
  . rfl

theorem flows_work (producer : Producer) (now : UInt64) (hopen : inbox.isOpen = true) :
    ∃ delivered, inbox.Flows producer.waiting (producer.work now inbox).2
      (producer.work now inbox).1.waiting delivered := by
  cases producer with
  | host => exact ⟨[], Inbox.flows_refl inbox _⟩
  | panel p => exact p.flows_work now hopen
  | synthetic synthesizer => exact synthesizer.flows_work now hopen

theorem stop_of_full (producer : Producer) (now : UInt64) (hclosed : inbox.isOpen = false)
    (hfull : inbox.queue.length = Inbox.capacity) : (producer.stop now inbox).2 = inbox := by
  cases producer with
  | host => rfl
  | panel p => exact p.stop_of_full now hclosed hfull
  | synthetic synthesizer => exact synthesizer.stop_of_full now hclosed hfull

theorem isIdle_stop (producer : Producer) (now : UInt64) (inbox : Inbox) :
    (producer.stop now inbox).1.IsIdle := by
  cases producer with
  | host => trivial
  | panel p => exact p.worker_stop now inbox
  | synthetic synthesizer => exact synthesizer.worker_stop now inbox

theorem isIdle_prepare (hidle : producer.IsIdle) {prepared : Producer} {settings : Settings}
    (h : producer.prepare settings = .ok prepared) : prepared.IsIdle := by
  unfold prepare at h
  cases producer with
  | host relay =>
    obtain ⟨next, -, rfl⟩ := exists_of_map_eq_ok h
    trivial
  | panel p =>
    obtain ⟨next, hnext, rfl⟩ := exists_of_map_eq_ok h
    exact (Panel.worker_prepare hnext).trans hidle
  | synthetic synthesizer =>
    obtain ⟨next, hnext, rfl⟩ := exists_of_map_eq_ok h
    exact (Synthesizer.worker_prepare hnext).trans hidle

end Producer

end TouchPanel
