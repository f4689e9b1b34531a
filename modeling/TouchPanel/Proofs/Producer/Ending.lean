import TouchPanel.Proofs.Inbox.Lifting
import TouchPanel.Proofs.Producer.Mirroring

/-!
This module contains what becomes of a panel whose worker meets a fault with which reading ends. The
worker reads no more: it lifts the contacts that its tracker has down (`Reader.releases_step`) and
ends. The panel keeps the status that the fault has left it in, until it is started again
(`Panel.start_of_failed`), which it never is if the device is gone (`Panel.start_of_disconnected`).
-/

namespace TouchPanel

theorem Slot.phase_of_mem_releases (slot : Slot) (index : Nat) (time : UInt64) :
    ∀ transition ∈ slot.releases index time, transition.phase = .up := by
  unfold releases Contact.transition
  dsimp only
  cases slot.owed <;> cases slot.contact.isDown <;> simp

theorem Tracker.phase_of_mem_release (tracker : Tracker) (time : UInt64) :
    ∀ transition ∈ (tracker.release time).2, transition.phase = .up := by
  intro transition hmem
  obtain ⟨⟨slot, index⟩, -, hslot⟩ := List.mem_flatMap.1 (List.mem_of_mem_take hmem)
  exact slot.phase_of_mem_releases index time transition hslot

namespace Reader

open Kernel (FetchFault)
open Stroke (ofKey)

/--
A worker has delivered all that it has read, and meets a fault with which reading ends.
-/
structure Meets (fault : FetchFault) (reader : Reader) : Prop where
  hasEnded : reader.hasEnded = false
  waiting : reader.waiting = []
  mouseEvent : reader.mouseEvent = none
  transitions : reader.transitions = []
  records : reader.records = []
  isLeaving : reader.isLeaving = false
  isWanted : reader.isWanted = true
  fetch : reader.feed.fetch.1 = .error fault
  isPassing : fault.isPassing = false

/--
A step leaves a property of workers as it is, and does not report that reading has ended.
-/
def IsSteady (holds : Reader → Prop) : Prop :=
  ∀ reader, holds reader → ∀ now inbox,
    holds (reader.step now inbox).1 ∧ (reader.step now inbox).2.2 = none

structure Leaves (reader : Reader) : Prop where
  isLeaving : reader.isLeaving = true
  records : reader.records = []

/--
A worker that reads no more, and has still to lift some of the contacts that were down.
-/
structure Releases (calibration : Calibration) (released : List Transition) (guard : Guard)
    (reader : Reader) : Prop where
  leaves : reader.Leaves
  waiting : reader.waiting = []
  lifts : ∀ transition ∈ reader.transitions, transition.phase = .up
  ended : reader.hasEnded = true → reader.transitions = []
  covers : ∀ transition ∈ released, transition ∈ reader.transitions ∨
    guard.isDown (calibration.mark transition).key = false
  calibration : reader.calibration = calibration

variable {fault : FetchFault} {reader : Reader} {calibration : Calibration}
  {released : List Transition} {inbox : Inbox}

theorem step_of_meets (h : reader.Meets fault) (now : UInt64) (inbox : Inbox) :
    reader.step now inbox =
      ({ reader with feed := reader.feed.fetch.2 }.leave, inbox, some fault.ending) := by
  rw [step_of_isWanted h.hasEnded h.waiting h.mouseEvent h.transitions h.records h.isLeaving
    h.isWanted]
  have hfetch := h.fetch
  unfold Reader.fetch
  generalize reader.feed.fetch = answer at hfetch ⊢
  obtain ⟨fetched, feed⟩ := answer
  obtain rfl : fetched = .error fault := hfetch
  dsimp only
  rw [h.isPassing, if_neg Bool.false_ne_true]
  rfl

theorem leaves_leave (reader : Reader) : reader.leave.Leaves := ⟨rfl, rfl⟩

theorem releases_leave (hended : reader.hasEnded = false) (guard : Guard) :
    reader.leave.Releases reader.calibration (reader.tracker.release 0).2 guard := by
  constructor
  . exact leaves_leave reader
  . rfl
  . exact reader.tracker.phase_of_mem_release 0
  . intro hagain
    rw [show reader.leave.hasEnded = reader.hasEnded from rfl, hended] at hagain
    contradiction
  . exact fun _ hmem => .inl hmem
  . rfl

theorem leaves_settle (h : reader.Leaves) (delivery : Delivery) :
    (reader.settle delivery).Leaves := by
  unfold settle
  cases delivery with
  | done => exact ⟨h.isLeaving, h.records⟩
  | waiting => exact ⟨h.isLeaving, h.records⟩
  | closed =>
    dsimp only
    rw [if_pos h.isLeaving]
    exact ⟨h.isLeaving, h.records⟩

theorem isSteady_leaves : IsSteady Leaves := by
  intro reader h now inbox
  cases hended : reader.hasEnded with
  | true =>
    rw [step_of_hasEnded hended]
    exact ⟨h, rfl⟩
  | false =>
    by_cases hwaiting : reader.waiting = []
    . cases hmouse : reader.mouseEvent with
      | some event =>
        rw [step_of_mouseEvent hended hwaiting hmouse]
        refine ⟨?_, rfl⟩
        apply leaves_settle
        exact ⟨h.isLeaving, h.records⟩
      | none =>
        cases htransitions : reader.transitions with
        | cons transition transitions =>
          rw [step_of_transition hended hwaiting hmouse htransitions]
          refine ⟨?_, rfl⟩
          apply leaves_settle
          exact ⟨h.isLeaving, h.records⟩
        | nil =>
          rw [step_of_isLeaving hended hwaiting hmouse htransitions h.records h.isLeaving]
          exact ⟨⟨h.isLeaving, h.records⟩, rfl⟩
    . rw [step_of_waiting hended hwaiting]
      exact ⟨leaves_settle h _, rfl⟩

theorem releases_deliver (h : reader.Releases calibration released inbox.guard)
    (hended : reader.hasEnded = false) {transition : Transition} {transitions : List Transition}
    (htransitions : reader.transitions = transition :: transitions) (mouseEvent : Option MouseEvent)
    (hopen : inbox.isOpen = true) (now : UInt64) :
    let sample := reader.calibration.sample transition now
    { reader with transitions, mouseEvent, waiting := [] }.Releases calibration released
      (inbox.push (.pointer sample)).1.guard := by
  intro sample
  obtain rfl := h.calibration
  have hlifts := h.lifts
  have hcovers := h.covers
  rw [htransitions] at hlifts hcovers
  have hup : sample.phase = .up := hlifts transition List.mem_cons_self
  rw [Inbox.guard_push hopen]
  constructor
  . exact ⟨h.leaves.isLeaving, h.leaves.records⟩
  . rfl
  . exact fun other hmem => hlifts other (List.mem_cons_of_mem _ hmem)
  . intro hagain
    rw [hended] at hagain
    contradiction
  . intro other hmem
    rcases hcovers other hmem with hahead | hlifted
    . rcases List.mem_cons.1 hahead with rfl | hlater
      . exact .inr (inbox.guard.isDown_judge_of_up hup)
      . exact .inl hlater
    . exact .inr (Guard.isDown_of_lifts (inbox.guard.lifts_judge hup) hlifted)
  . rfl

theorem releases_step (h : reader.Releases calibration released inbox.guard)
    (hopen : inbox.isOpen = true) (now : UInt64)
    (hstill : (reader.step now inbox).1.waiting = []) :
    ∃ entered, inbox.Lifts (reader.step now inbox).2.1 entered ∧
      (reader.step now inbox).1.Releases calibration released (reader.step now inbox).2.1.guard := by
  cases hended : reader.hasEnded with
  | true =>
    rw [step_of_hasEnded hended]
    exact ⟨[], inbox.lifts_refl, h⟩
  | false =>
    cases hmouse : reader.mouseEvent with
    | some event =>
      rw [step_of_mouseEvent hended h.waiting hmouse] at hstill ⊢
      rw [waiting_settle] at hstill
      have hother : (Event.mouse event).sample? = none := rfl
      have hlifts := Inbox.lifts_push_of_other hopen hother hstill
      rw [settle_of_ne_closed _ (Inbox.push_ne_closed hopen _),
        Inbox.guard_push_of_other hopen hother]
      exact ⟨_, hlifts, ⟨h.leaves.isLeaving, h.leaves.records⟩, hstill, h.lifts, h.ended, h.covers,
        h.calibration⟩
    | none =>
      cases htransitions : reader.transitions with
      | cons transition transitions =>
        rw [step_of_transition hended h.waiting hmouse htransitions] at hstill ⊢
        rw [waiting_settle] at hstill
        have hup : (reader.calibration.sample transition now).phase = .up := by
          apply h.lifts transition
          rw [htransitions]
          exact List.mem_cons_self
        have hlifts := Inbox.lifts_push_of_up hopen hup hstill
        rw [settle_of_ne_closed _ (Inbox.push_ne_closed hopen _), hstill]
        exact ⟨_, hlifts, releases_deliver h hended htransitions _ hopen now⟩
      | nil =>
        rw [step_of_isLeaving hended h.waiting hmouse htransitions h.leaves.records
          h.leaves.isLeaving]
        exact ⟨[], inbox.lifts_refl, ⟨h.leaves.isLeaving, h.leaves.records⟩, h.waiting, h.lifts,
          fun _ => htransitions, h.covers, h.calibration⟩

theorem isSteady_hasEnded : IsSteady fun reader => reader.hasEnded = true := by
  intro reader hended now inbox
  rw [step_of_hasEnded hended]
  exact ⟨hended, rfl⟩

/--
A worker with several contacts, of which those that the guard has down are lifted in the end,
whatever the device brings yet.
-/
structure Closes (guard : Guard) (reader : Reader) : Prop where
  isMultiTouch : reader.calibration.isMultiTouch = true
  isWanted : reader.isWanted = true
  records : reader.isLeaving = true → reader.records = []
  ended : reader.hasEnded = true → reader.isLeaving = true ∧ reader.transitions = []
  closed : ∀ more key,
    Stroke.run (guard.isDown key) (ofKey key ((reader.ahead more).map reader.calibration.mark)) =
      some false

theorem closes_new {capabilities : Device.Capabilities}
    (hprotocol : capabilities.protocol.isMultiTouch) (hmulti : capabilities.isMultiTouch = true)
    {guard : Guard} (hup : ∀ key, guard.isDown key = false) (feed : Kernel.Feed)
    (surface : Option Reference) : (Reader.new feed capabilities surface).Closes guard := by
  constructor
  . exact hmulti
  . rfl
  . intro hleaving
    contradiction
  . intro hended
    contradiction
  . intro more key
    rw [hup]
    exact Calibration.closed_reported hprotocol hmulti more key

theorem closes_of_ahead {guard : Guard} (h : reader.Closes guard) {next : Reader}
    (hcalibration : next.calibration = reader.calibration)
    (hwanted : next.isWanted = reader.isWanted)
    (hrecords : next.isLeaving = true → next.records = [])
    (hended : next.hasEnded = true → next.isLeaving = true ∧ next.transitions = [])
    (hahead : ∀ more, ∃ fetched, next.ahead more = reader.ahead fetched) : next.Closes guard := by
  constructor
  . rw [hcalibration]
    exact h.isMultiTouch
  . exact hwanted.trans h.isWanted
  . exact hrecords
  . exact hended
  . intro more
    obtain ⟨fetched, hsame⟩ := hahead more
    rw [hsame, hcalibration]
    exact h.closed fetched

theorem closes_transition (h : reader.Closes inbox.guard) (hended : reader.hasEnded = false)
    {transition : Transition} {transitions : List Transition}
    (htransitions : reader.transitions = transition :: transitions) (mouseEvent : Option MouseEvent)
    (waiting : List Event) (hopen : inbox.isOpen = true) (now : UInt64) :
    let sample := reader.calibration.sample transition now
    { reader with transitions, mouseEvent, waiting }.Closes
      (inbox.push (.pointer sample)).1.guard := by
  intro sample
  have hahead := ahead_eq_cons htransitions
  have hrun : ∀ more key, Stroke.run (inbox.guard.isDown key)
      (ofKey key (sample :: ({ reader with transitions }.ahead more).map
        reader.calibration.mark)) = some false := by
    intro more key
    -- The sample and its mark differ in the time only.
    have hclosed := h.closed more key
    rw [hahead, List.map_cons, Stroke.ofKey_cons] at hclosed
    rw [Stroke.ofKey_cons]
    exact hclosed
  have hfirst := hrun [] sample.key
  rw [Stroke.ofKey_cons, if_pos rfl, Stroke.run_cons] at hfirst
  obtain ⟨after, hafter, -⟩ := Option.bind_eq_some_iff.1 hfirst
  rw [Inbox.guard_push hopen]
  constructor
  . exact h.isMultiTouch
  . exact h.isWanted
  . exact h.records
  . intro hagain
    rw [hended] at hagain
    contradiction
  . intro more key
    have hmore := hrun more key
    rw [Stroke.ofKey_cons] at hmore
    rw [Guard.isDown_judge hafter]
    by_cases hkey : sample.key = key
    . subst hkey
      rw [if_pos rfl, Stroke.run_cons, hafter] at hmore
      rw [if_pos rfl]
      exact hmore
    . rw [if_neg hkey] at hmore ⊢
      exact hmore

theorem closes_record {guard : Guard} (h : reader.Closes guard) (hended : reader.hasEnded = false)
    (htransitions : reader.transitions = []) {record : Kernel.Record} {records : List Kernel.Record}
    (hrecords : reader.records = record :: records) :
    { reader with
      tracker := (reader.tracker.process record).1
      records
      transitions := (reader.tracker.process record).2.getD [] }.Closes guard := by
  have hleaving : reader.isLeaving = false := by
    rw [← Bool.not_eq_true]
    intro hleaving
    rw [h.records hleaving] at hrecords
    contradiction
  apply closes_of_ahead h
  . rfl
  . rfl
  . intro hagain
    rw [hleaving] at hagain
    contradiction
  . intro hagain
    rw [hended] at hagain
    contradiction
  . intro more
    refine ⟨more, ?_⟩
    unfold ahead
    rw [hleaving, htransitions, hrecords, List.cons_append, List.nil_append,
      Tracker.reported_cons]
    rfl

theorem closes_fetch {guard : Guard} (h : reader.Closes guard) (hended : reader.hasEnded = false)
    (htransitions : reader.transitions = []) (hrecords : reader.records = [])
    (hleaving : reader.isLeaving = false) : reader.fetch.1.Closes guard := by
  have hgoing : reader.hasEnded ≠ true := by
    rw [hended]
    exact Bool.false_ne_true
  unfold fetch
  cases reader.feed.fetch with
  | mk fetched feed =>
    cases fetched with
    | ok records =>
      apply closes_of_ahead h
      . rfl
      . rfl
      . intro hagain
        rw [hleaving] at hagain
        contradiction
      . exact fun hagain => absurd hagain hgoing
      . -- What has been fetched is now counted among the records.
        intro more
        refine ⟨records ++ more, ?_⟩
        unfold ahead
        rw [hleaving, hrecords]
        rfl
    | error fault =>
      dsimp only
      split
      . exact closes_of_ahead h rfl rfl h.records (fun hagain => absurd hagain hgoing)
          fun more => ⟨more, rfl⟩
      . apply closes_of_ahead h
        . rfl
        . rfl
        . exact fun _ => rfl
        . exact fun hagain => absurd hagain hgoing
        . -- The release is what is reported of no further records.
          intro more
          refine ⟨[], ?_⟩
          unfold ahead
          rw [hleaving, htransitions, hrecords, List.append_nil, Tracker.reported_nil]
          rfl

/--
Each step of a worker, with an inbox that is open, leaves it to lift what the guard has down in the
end, whether there is room or not.
-/
theorem closes_step (h : reader.Closes inbox.guard) (hopen : inbox.isOpen = true)
    (now : UInt64) :
    (reader.step now inbox).1.Closes (reader.step now inbox).2.1.guard := by
  cases hended : reader.hasEnded with
  | true =>
    rw [step_of_hasEnded hended]
    exact h
  | false =>
    by_cases hwaiting : reader.waiting = []
    . cases hmouse : reader.mouseEvent with
      | some event =>
        rw [step_of_mouseEvent hended hwaiting hmouse,
          settle_of_ne_closed _ (Inbox.push_ne_closed hopen _),
          Inbox.guard_push_of_other hopen rfl]
        exact closes_of_ahead h rfl rfl h.records h.ended fun more => ⟨more, rfl⟩
      | none =>
        cases htransitions : reader.transitions with
        | cons transition transitions =>
          rw [step_of_transition hended hwaiting hmouse htransitions,
            settle_of_ne_closed _ (Inbox.push_ne_closed hopen _)]
          exact closes_transition h hended htransitions _ _ hopen now
        | nil =>
          cases hrecords : reader.records with
          | cons record records =>
            rw [step_of_record hended hwaiting hmouse htransitions hrecords]
            exact closes_record h hended htransitions hrecords
          | nil =>
            cases hleaving : reader.isLeaving with
            | true =>
              rw [step_of_isLeaving hended hwaiting hmouse htransitions hrecords hleaving]
              exact closes_of_ahead h rfl rfl h.records (fun _ => ⟨hleaving, htransitions⟩)
                fun more => ⟨more, rfl⟩
            | false =>
              rw [step_of_isWanted hended hwaiting hmouse htransitions hrecords hleaving h.isWanted]
              exact closes_fetch h hended htransitions hrecords hleaving
    . rw [step_of_waiting hended hwaiting, settle_of_ne_closed _ (Inbox.enqueue_ne_closed hopen _),
        (Inbox.queue_enqueue hopen _).2.1]
      exact closes_of_ahead h rfl rfl h.records h.ended fun more => ⟨more, rfl⟩

theorem isDown_of_closes {guard : Guard} (h : reader.Closes guard) (hended : reader.hasEnded = true)
    (key : Key) : guard.isDown key = false := by
  have hclosed := h.closed [] key
  unfold ahead at hclosed
  rw [if_pos (h.ended hended).1, (h.ended hended).2] at hclosed
  exact Option.some.inj hclosed

theorem finish_of_hasEnded (hended : reader.hasEnded = true) (now : UInt64) (inbox : Inbox) :
    reader.finish now inbox = (reader, inbox) := by
  unfold finish
  rw [step_of_hasEnded hended, dif_neg (Nat.lt_irrefl _)]

end Reader

namespace Panel

variable {panel : Panel}

theorem locate_of_prepare {prepared : Panel} {settings : Settings}
    (h : panel.prepare settings = .ok prepared) :
    ∃ path, panel.locate settings = .ok path ∧ prepared.path = some path := by
  unfold prepare at h
  simp only [bind, Except.bind, pure, Except.pure] at h
  split at h
  . contradiction
  . next path hpath =>
    split at h
    . contradiction
    . split at h
      . contradiction
      . obtain rfl := Except.ok.inj h
        exact ⟨path, hpath, rfl⟩

theorem start_eq_ok {started : Panel} (h : panel.start = .ok started) :
    ∃ (device : Device) (capabilities : Device.Capabilities),
      panel.capabilities = some capabilities ∧ started =
      { panel with
        device := none
        worker := some (.new device.feed capabilities panel.mouseSurface)
        status := .running } := by
  unfold start at h
  simp only [bind, Except.bind, pure, Except.pure, throw, throwThe, MonadExceptOf.throw] at h
  split at h
  . contradiction
  . split at h
    . contradiction
    . split at h
      . next path capabilities _ hknown =>
        split at h
        . obtain rfl := Except.ok.inj h
          exact ⟨_, capabilities, hknown, rfl⟩
        . split at h
          . contradiction
          . obtain rfl := Except.ok.inj h
            exact ⟨_, capabilities, hknown, rfl⟩
      . contradiction

theorem start_of_disconnected (hworker : panel.worker = none)
    (hstatus : panel.status = .disconnected) : panel.start = .error .disconnected := by
  unfold start
  rw [hworker, hstatus]
  rfl

theorem start_of_failed (hworker : panel.worker = none) (hstatus : panel.status ≠ .disconnected)
    {path : String} (hpath : panel.path = some path) {capabilities : Device.Capabilities}
    (hknown : panel.capabilities = some capabilities) (hdevice : panel.device = none) :
    panel.start =
      match panel.opener path with
      | .ok device =>
        .ok { panel with
          worker := some (.new device.feed capabilities panel.mouseSurface)
          status := .running }
      | .error cause => .error (.deviceOpen path cause) := by
  unfold start openDevice
  rw [hworker, if_neg hstatus, hpath, hknown, hdevice, Option.any_none, if_neg Bool.false_ne_true]
  dsimp only
  cases panel.opener path <;> rfl

theorem stop_of_ne_running (hstatus : panel.status ≠ .running) (now : UInt64) (inbox : Inbox) :
    (panel.stop now inbox).1 = { panel with worker := none } := by
  cases hworker : panel.worker with
  | none =>
    have hstop : panel.stop now inbox = (panel, inbox) := by
      unfold stop
      rw [hworker]
    rw [hstop, ← hworker]
  | some worker =>
    unfold stop Status.transition
    rw [hworker, if_neg hstatus]

end Panel

end TouchPanel
