import TouchPanel.Producer.Basic
import TouchPanel.Proofs.Inbox.Delivery

/-!
This module contains what the producers do to the inbox that they deliver to. A step of a worker
delivers one event at most (`Producer.passes_work`), a pull never has to wait
(`Producer.grows_pull`), and a worker that is stopped finds the inbox closed and leaves it as it is
(`Producer.stop_of_closed`).
-/

namespace TouchPanel

theorem exists_of_map_eq_ok {α β ε : Type} {f : α → β} {result : Except ε α} {b : β}
    (h : result.map f = .ok b) : ∃ a, result = .ok a ∧ f a = b := by
  cases result with
  | error => contradiction
  | ok a => exact ⟨a, rfl, Except.ok.inj h⟩

theorem of_mapError_eq_ok {α ε δ : Type} {f : ε → δ} {result : Except ε α} {a : α}
    (h : result.mapError f = .ok a) : result = .ok a := by
  cases result with
  | error => contradiction
  | ok a' => exact congrArg Except.ok (Except.ok.inj h)

namespace Reader

theorem waiting_settle (reader : Reader) (delivery : Delivery) :
    (reader.settle delivery).waiting = delivery.rest := by
  unfold settle
  cases delivery with
  | done => rfl
  | waiting => rfl
  | closed =>
    dsimp only
    split <;> rfl

theorem settle_of_ne_closed (reader : Reader) {delivery : Delivery} (h : delivery ≠ .closed) :
    reader.settle delivery = { reader with waiting := delivery.rest } := by
  cases delivery with
  | done => rfl
  | waiting => rfl
  | closed => contradiction

theorem waiting_fetch {reader : Reader} (hwaiting : reader.waiting = []) :
    reader.fetch.1.waiting = [] := by
  unfold fetch
  cases reader.feed.fetch with
  | mk fetched feed =>
    cases fetched with
    | ok => exact hwaiting
    | error fault =>
      dsimp only
      split
      . exact hwaiting
      . rfl

theorem passes_step {reader : Reader} (hwaiting : reader.waiting = []) (now : UInt64)
    (inbox : Inbox) :
    inbox.Passes (reader.step now inbox).2.1 (reader.step now inbox).1.waiting := by
  unfold step
  split
  . rw [hwaiting]
    exact .rest
  . split
    . simp_all
    . split
      . rw [waiting_settle]
        exact .push _
      . dsimp only
        rw [waiting_settle]
        exact .push _
      . dsimp only
        rw [hwaiting]
        exact .rest
      . split
        . rw [hwaiting]
          exact .rest
        . split
          . dsimp only
            rw [waiting_fetch hwaiting]
            exact .rest
          . exact .rest

theorem finish_of_closed {reader : Reader} (hwaiting : reader.waiting = []) (now : UInt64)
    {inbox : Inbox} (hclosed : inbox.isOpen = false) : (reader.finish now inbox).2 = inbox := by
  induction hsize : reader.remaining using Nat.strongRecOn generalizing reader with
  | ind size ih =>
    subst hsize
    -- A step leaves the inbox as it is, so the next one finds it closed again.
    obtain ⟨hsame, hstill⟩ := Inbox.eq_of_passes hclosed (passes_step hwaiting now inbox)
    unfold finish
    split
    . next hless =>
      rw [hsame]
      exact ih _ hless hstill rfl
    . exact hsame

end Reader

namespace Generator

theorem waiting_settle (generator : Generator) (delivery : Delivery) :
    (generator.settle delivery).waiting = delivery.rest := by
  unfold settle
  cases delivery <;> rfl

theorem waiting_begin (generator : Generator) (now : UInt64) :
    (generator.begin now).waiting = generator.waiting := by
  unfold begin
  dsimp only
  cases generator.settings.pattern with
  | none => rfl
  | some pattern =>
    unfold follow?
    rw [Option.bind_some]
    cases Pattern.Cycle.next? _ <;> rfl

theorem waiting_proceed (generator : Generator) (now : UInt64) (course : Course) :
    (generator.proceed now course).waiting = generator.waiting := by
  unfold proceed follow?
  cases course.cycle.next? with
  | none =>
    rw [Option.map_none, Option.getD_none]
    split
    . apply waiting_begin
    . rfl
  | some => rfl

theorem passes_step {generator : Generator} (hwaiting : generator.waiting = []) (now : UInt64)
    (script : Script) (inbox : Inbox) :
    inbox.Passes (generator.step now script inbox).2.2
      (generator.step now script inbox).1.waiting := by
  unfold step
  split
  . simp_all
  . split
    . rw [hwaiting]
      exact .rest
    . split
      . rw [hwaiting]
        exact .rest
      . split <;>
        . rw [hwaiting]
          exact .rest
    . split
      . dsimp only
        rw [waiting_settle]
        exact .push _
      . unfold idle
        rw [hwaiting]
        exact .rest
      . dsimp only
        rw [hwaiting]
        exact .rest
    . dsimp only
      rw [waiting_settle]
      exact .push _
    . rw [waiting_proceed, hwaiting]
      exact .rest

theorem finish_of_closed {generator : Generator} (hwaiting : generator.waiting = []) (now : UInt64)
    (script : Script) {inbox : Inbox} (hclosed : inbox.isOpen = false) :
    (generator.finish now script inbox).2 = inbox := by
  induction hsize : generator.remaining script using Nat.strongRecOn
    generalizing generator script with
  | ind size ih =>
    subst hsize
    obtain ⟨hsame, hstill⟩ := Inbox.eq_of_passes hclosed (passes_step hwaiting now script inbox)
    unfold finish
    split
    . next hless =>
      rw [hsame]
      exact ih _ hless hstill _ rfl
    . exact hsame

end Generator

namespace Relay

theorem grows_pullAll (reference : Reference) (now : UInt64) (isLeftHeld : Bool) (inbox : Inbox)
    (events : List Host.Event) :
    ∃ entered, inbox.Grows (pullAll reference now isLeftHeld inbox events).inbox entered := by
  induction events generalizing isLeftHeld inbox with
  | nil => exact ⟨[], Inbox.grows_refl inbox⟩
  | cons event events ih =>
    unfold pullAll
    split
    . next hroom =>
      cases hconvert : convert reference now isLeftHeld event with
      | mk isHeld converted =>
        cases converted with
        | none => apply ih
        | some event =>
          dsimp only
          rcases inbox.push_cases event with ⟨-, hpush⟩ | ⟨hdone, hgrows⟩ | ⟨-, hfull, -⟩
          . rw [hpush]
            exact ⟨[], Inbox.grows_refl inbox⟩
          . generalize inbox.push event = pushed at hdone hgrows
            obtain ⟨next, delivery⟩ := pushed
            dsimp only at hdone hgrows
            subst hdone
            obtain ⟨entered, hmore⟩ := ih isHeld next
            exact ⟨_, Inbox.grows_trans hgrows hmore⟩
          . -- There is room for two events, and no delivery puts in more.
            have := inbox.length_arrivals_le event
            unfold Inbox.hasRoom at hroom hfull
            rw [decide_eq_true_iff] at hroom
            rw [decide_eq_false_iff_not] at hfull
            omega
    . exact ⟨[], Inbox.grows_refl inbox⟩

end Relay

namespace Panel

def waiting (panel : Panel) : List Event := (panel.worker.map Reader.waiting).getD []

theorem waiting_of_worker {panel : Panel} {worker : Reader} (h : panel.worker = some worker) :
    panel.waiting = worker.waiting := by
  unfold waiting
  rw [h]
  rfl

theorem passes_work {panel : Panel} (hwaiting : panel.waiting = []) (now : UInt64) (inbox : Inbox) :
    inbox.Passes (panel.work now inbox).2 (panel.work now inbox).1.waiting := by
  cases hworker : panel.worker with
  | none =>
    have hwork : panel.work now inbox = (panel, inbox) := by
      unfold work
      rw [hworker]
    rw [hwork, hwaiting]
    exact .rest
  | some worker =>
    rw [waiting_of_worker hworker] at hwaiting
    unfold work
    rw [hworker]
    exact Reader.passes_step hwaiting now inbox

theorem stop_of_closed {panel : Panel} (hwaiting : panel.waiting = []) (now : UInt64)
    {inbox : Inbox} (hclosed : inbox.isOpen = false) :
    (panel.stop now inbox).2 = inbox ∧ (panel.stop now inbox).1.waiting = [] := by
  cases hworker : panel.worker with
  | none =>
    have hstop : panel.stop now inbox = (panel, inbox) := by
      unfold stop
      rw [hworker]
    rw [hstop]
    exact ⟨rfl, hwaiting⟩
  | some worker =>
    rw [waiting_of_worker hworker] at hwaiting
    unfold stop
    rw [hworker]
    refine ⟨?_, rfl⟩
    apply Reader.finish_of_closed _ now hclosed
    exact hwaiting

theorem prepare_eq_ok {panel prepared : Panel} {settings : Settings}
    (h : panel.prepare settings = .ok prepared) :
    ∃ path device capabilities, panel.openDevice path = .ok device ∧
      device.survey.capabilities = .ok capabilities ∧
      prepared =
        { panel with
          path := some path
          device := some device
          capabilities := some capabilities
          mouseSurface := if settings.drivesMouse then some settings.reference else none
          status := .prepared } := by
  unfold prepare at h
  simp only [bind, Except.bind, pure, Except.pure] at h
  split at h
  . contradiction
  . next path _ =>
    split at h
    . contradiction
    . next device hdevice =>
      split at h
      . contradiction
      . next capabilities hcapabilities =>
        exact ⟨path, device, capabilities, hdevice, of_mapError_eq_ok hcapabilities,
          (Except.ok.inj h).symm⟩

theorem waiting_prepare {panel prepared : Panel} {settings : Settings}
    (h : panel.prepare settings = .ok prepared) : prepared.waiting = panel.waiting := by
  obtain ⟨path, device, capabilities, -, -, rfl⟩ := prepare_eq_ok h
  rfl

theorem waiting_start {panel started : Panel} (h : panel.start = .ok started) :
    started.waiting = [] := by
  unfold start at h
  simp only [bind, Except.bind, pure, Except.pure, throw, throwThe, MonadExceptOf.throw] at h
  split at h
  . contradiction
  . split at h
    . contradiction
    . split at h
      . split at h
        . obtain rfl := Except.ok.inj h
          rfl
        . -- The device is opened anew, which may fail.
          split at h
          . contradiction
          . obtain rfl := Except.ok.inj h
            rfl
      . contradiction

end Panel

namespace Synthesizer

def waiting (synthesizer : Synthesizer) : List Event :=
  (synthesizer.worker.map Generator.waiting).getD []

theorem waiting_of_worker {synthesizer : Synthesizer} {worker : Generator}
    (h : synthesizer.worker = some worker) : synthesizer.waiting = worker.waiting := by
  unfold waiting
  rw [h]
  rfl

theorem passes_work {synthesizer : Synthesizer} (hwaiting : synthesizer.waiting = [])
    (now : UInt64) (inbox : Inbox) :
    inbox.Passes (synthesizer.work now inbox).2 (synthesizer.work now inbox).1.waiting := by
  cases hworker : synthesizer.worker with
  | none =>
    have hwork : synthesizer.work now inbox = (synthesizer, inbox) := by
      unfold work
      rw [hworker]
    rw [hwork, hwaiting]
    exact .rest
  | some worker =>
    rw [waiting_of_worker hworker] at hwaiting
    unfold work
    rw [hworker]
    exact Generator.passes_step hwaiting now synthesizer.script inbox

theorem stop_of_closed {synthesizer : Synthesizer} (hwaiting : synthesizer.waiting = [])
    (now : UInt64) {inbox : Inbox} (hclosed : inbox.isOpen = false) :
    (synthesizer.stop now inbox).2 = inbox ∧ (synthesizer.stop now inbox).1.waiting = [] := by
  cases hworker : synthesizer.worker with
  | none =>
    have hstop : synthesizer.stop now inbox = (synthesizer, inbox) := by
      unfold stop
      rw [hworker]
    rw [hstop]
    exact ⟨rfl, hwaiting⟩
  | some worker =>
    rw [waiting_of_worker hworker] at hwaiting
    unfold stop
    rw [hworker]
    refine ⟨?_, rfl⟩
    apply Generator.finish_of_closed _ now _ hclosed
    exact hwaiting

theorem waiting_start {synthesizer started : Synthesizer} {now : UInt64}
    (h : synthesizer.start now = .ok started) : started.waiting = [] := by
  unfold start at h
  split at h
  . contradiction
  . split at h
    . contradiction
    . obtain rfl := Except.ok.inj h
      apply Generator.waiting_begin

theorem waiting_prepare {synthesizer prepared : Synthesizer} {settings : Settings}
    (h : synthesizer.prepare settings = .ok prepared) : prepared.waiting = synthesizer.waiting := by
  unfold prepare at h
  split at h
  . contradiction
  . obtain rfl := Except.ok.inj h
    rfl

end Synthesizer

namespace Producer

def waiting : Producer → List Event
  | host _ => []
  | panel p => p.waiting
  | synthetic synthesizer => synthesizer.waiting

theorem waiting_new (kind : ProducerKind) (pump : Option Host.Pump) (opener : Device.Opener) :
    (new kind pump opener).waiting = [] := by
  cases kind <;> rfl

theorem grows_pull (producer : Producer) (now : UInt64) (inbox : Inbox) :
    ∃ entered, inbox.Grows (producer.pull now inbox).2 entered := by
  unfold pull
  cases producer with
  | host relay =>
    dsimp only
    unfold Relay.pull
    split
    . apply Relay.grows_pullAll
    . exact ⟨[], Inbox.grows_refl inbox⟩
  | panel => exact ⟨[], Inbox.grows_refl inbox⟩
  | synthetic => exact ⟨[], Inbox.grows_refl inbox⟩

theorem waiting_pull (producer : Producer) (now : UInt64) (inbox : Inbox) :
    (producer.pull now inbox).1.waiting = producer.waiting := by
  cases producer <;> rfl

theorem passes_work {producer : Producer} (hwaiting : producer.waiting = []) (now : UInt64)
    (inbox : Inbox) :
    inbox.Passes (producer.work now inbox).2 (producer.work now inbox).1.waiting := by
  cases producer with
  | host => exact .rest
  | panel => exact Panel.passes_work hwaiting now inbox
  | synthetic => exact Synthesizer.passes_work hwaiting now inbox

theorem stop_of_closed {producer : Producer} (hwaiting : producer.waiting = []) (now : UInt64)
    {inbox : Inbox} (hclosed : inbox.isOpen = false) :
    (producer.stop now inbox).2 = inbox ∧ (producer.stop now inbox).1.waiting = [] := by
  cases producer with
  | host => exact ⟨rfl, rfl⟩
  | panel => exact Panel.stop_of_closed hwaiting now hclosed
  | synthetic => exact Synthesizer.stop_of_closed hwaiting now hclosed

theorem waiting_prepare {producer prepared : Producer} {settings : Settings}
    (h : producer.prepare settings = .ok prepared) : prepared.waiting = producer.waiting := by
  unfold prepare at h
  cases producer with
  | host relay =>
    obtain ⟨next, -, rfl⟩ := exists_of_map_eq_ok h
    rfl
  | panel p =>
    obtain ⟨next, hnext, rfl⟩ := exists_of_map_eq_ok h
    exact Panel.waiting_prepare hnext
  | synthetic synthesizer =>
    obtain ⟨next, hnext, rfl⟩ := exists_of_map_eq_ok h
    exact Synthesizer.waiting_prepare hnext

theorem waiting_start {producer started : Producer} {now : UInt64}
    (h : producer.start now = .ok started) : started.waiting = [] := by
  unfold start at h
  cases producer with
  | host relay =>
    obtain ⟨next, -, rfl⟩ := exists_of_map_eq_ok h
    rfl
  | panel p =>
    obtain ⟨next, hnext, rfl⟩ := exists_of_map_eq_ok h
    exact Panel.waiting_start hnext
  | synthetic synthesizer =>
    obtain ⟨next, hnext, rfl⟩ := exists_of_map_eq_ok h
    exact Synthesizer.waiting_start hnext

end Producer

end TouchPanel
