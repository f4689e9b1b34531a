import TouchPanel.Proofs.Session.Lingering

/-!
This module contains what becomes of the contacts of a session whose panel meets a fault with which
reading ends: those that were down are lifted once, by the worker or by the stop. This is told with
how the session goes on (`Session.ends_undergoAll`).
-/

namespace TouchPanel

namespace Session

open Kernel (FetchFault)
open Stroke (ofKey)

/--
No event comes in past the producer, and its worker is not left waiting for room.
-/
def Unhindered (session : Session) : Deed → Prop
  | .op (.push _) => False
  | .op .work => session.Permits .work
  | _ => True

/--
Nothing passes a producer that waits, and a stop gives up nothing.
-/
def AllowsDeed (session : Session) : Deed → Prop
  | .op op => session.Allows op
  | _ => True

variable {session next : Session} {panel : Panel} {taken more : List Event}

/--
A session after the one in which its worker met a fault, with the events that were taken from it and
those that have come in since. They do nothing to a contact but lift it, and a stop leaves none down.
-/
structure Wanes (origin : Session) (taken fresh : List Event) (session : Session) : Prop where
  stream : taken ++ session.pending = origin.pending ++ fresh
  guard : origin.inbox.guard.Lifts session.inbox.guard (Event.samples fresh)
  stopped : session.isStarted = false → ∀ key, session.inbox.guard.isDown key = false

section

variable {origin : Session} {fresh entered : List Event} {opener : Device.Opener}
  {worker : Option Reader} {calibration : Calibration} {released : List Transition}

theorem wanes_step (h : Wanes origin taken fresh session)
    (hstream : more ++ next.pending = session.pending ++ entered)
    (hguard : session.inbox.guard.Lifts next.inbox.guard (Event.samples entered))
    (hstopped : next.isStarted = false → session.isStarted = false ∨ next.inbox.guard = .empty) :
    Wanes origin (taken ++ more) (fresh ++ entered) next := by
  constructor
  . rw [List.append_assoc, hstream, ← List.append_assoc, h.stream, List.append_assoc]
  . rw [Event.samples_append]
    exact Guard.lifts_trans h.guard hguard
  . intro hnext key
    rcases hstopped hnext with hbefore | hempty
    . exact Guard.isDown_of_lifts hguard (h.stopped hbefore key)
    . rw [hempty]
      rfl

theorem wanes_of_same (h : Wanes origin taken fresh session)
    (hstream : more ++ next.pending = session.pending)
    (hguard : next.inbox.guard = session.inbox.guard)
    (hstarted : next.isStarted = session.isStarted) : Wanes origin (taken ++ more) fresh next := by
  rw [← List.append_nil fresh]
  apply wanes_step h
  . rw [List.append_nil]
    exact hstream
  . rw [hguard]
    exact Guard.lifts_refl _
  . intro hstopped
    exact .inl (hstarted.symm.trans hstopped)

theorem waiting_of_lingers {holds : Reader → Prop} (h : session.Lingers holds panel opener worker)
    (hwaiting : ∀ reader, holds reader → reader.waiting = []) : session.producer.waiting = [] := by
  rw [h.producer]
  change (worker.map Reader.waiting).getD [] = []
  cases hworker : worker with
  | none => rfl
  | some reader => exact hwaiting reader (h.worker reader hworker)

theorem isDown_of_lingers
    (h : session.Lingers (Reader.Releases calibration released session.inbox.guard) panel opener
      worker)
    (hended : session.producer.hasEnded = true) {transition : Transition}
    (hmem : transition ∈ released) :
    session.inbox.guard.isDown (calibration.mark transition).key = false := by
  rw [h.producer] at hended
  obtain ⟨reader, hworker, hreader⟩ := (Option.any_eq_true _ _).1 hended
  have hreleases := h.worker reader hworker
  rcases hreleases.covers transition hmem with hahead | hup
  . rw [hreleases.ended hreader] at hahead
    contradiction
  . exact hup

theorem wanes_work (h : Wanes origin taken fresh session) (hpoised : session.Poised)
    (hlingers :
      session.Lingers (Reader.Releases calibration released session.inbox.guard) panel opener worker)
    (hstill : session.Permits .work) :
    ∃ entered worker, Wanes origin taken (fresh ++ entered) session.work ∧
      session.work.Lingers (Reader.Releases calibration released session.work.inbox.guard) panel
        opener worker := by
  cases hworker : worker with
  | none =>
    rw [work_of_worker_eq_none hlingers.producer hworker]
    refine ⟨[], worker, ?_, hlingers⟩
    rw [List.append_nil]
    exact h
  | some reader =>
    have hstarted := isStarted_of_worker hpoised hlingers.producer hworker
    have hreader := hlingers.worker reader hworker
    have hstatus := (Reader.isSteady_leaves reader hreader.leaves session.now session.inbox).2
    have hwork := work_of_panel hlingers.producer hworker
    rw [hstatus] at hwork
    have hinbox : session.work.inbox = (reader.step session.now session.inbox).2.1 := by
      rw [hwork]
    have hproducer : session.work.producer = .panel { panel with
        opener, worker := some (reader.step session.now session.inbox).1 } := by
      rw [hwork]
      rfl
    have hwaiting : (reader.step session.now session.inbox).1.waiting = [] := by
      change session.work.producer.waiting = [] at hstill
      rw [hproducer] at hstill
      exact hstill
    obtain ⟨entered, hlifts, hreleases⟩ :=
      Reader.releases_step hreader (hpoised.isOpen hstarted) session.now hwaiting
    rw [← hinbox] at hlifts hreleases
    refine ⟨entered, _, ?_, hproducer, ?_, ?_⟩
    . rw [← List.append_nil taken]
      apply wanes_step h _ hlifts.guard fun hstopped => .inl hstopped
      unfold pending
      rw [hlifts.queue, List.append_assoc]
      rfl
    . intro hstopped
      change session.isStarted = false at hstopped
      rw [hstarted] at hstopped
      contradiction
    . intro later hlater
      obtain rfl := Option.some.inj hlater
      exact hreleases

theorem wanes_stop (h : Wanes origin taken fresh session)
    (hlingers :
      session.Lingers (Reader.Releases calibration released session.inbox.guard) panel opener worker)
    (hstatus : panel.status ≠ .running) :
    ∃ entered worker, Wanes origin taken (fresh ++ entered) session.stop ∧
      session.stop.Lingers (Reader.Releases calibration released session.stop.inbox.guard) panel
        opener worker := by
  cases hstarted : session.isStarted with
  | false =>
    rw [stop_of_not_isStarted hstarted]
    refine ⟨[], worker, ?_, hlingers⟩
    rw [List.append_nil]
    exact h
  | true =>
    have hwaiting := waiting_of_lingers hlingers fun _ hreleases => hreleases.waiting
    obtain ⟨hbacklog, hqueue, hguard, -⟩ := stop_of_isStarted hstarted hwaiting
    refine ⟨(session.inbox.guard.release session.now).map .pointer, none, ?_, ?_, fun _ => rfl, ?_⟩
    . rw [← List.append_nil taken]
      apply wanes_step h _ _ fun _ => .inr hguard
      . unfold pending
        rw [hbacklog, hqueue, List.append_nil]
        rfl
      . rw [hguard, Event.samples_map_pointer]
        exact session.inbox.guard.lifts_release session.now
    . obtain ⟨inbox, hproducer⟩ := producer_stop hlingers.producer hstarted
      rw [Panel.stop_of_ne_running] at hproducer
      . exact hproducer
      . exact hstatus
    . intro reader hnone
      contradiction

theorem wanes_undergo (h : Wanes origin taken fresh session) (hpoised : session.Poised)
    (hlingers :
      session.Lingers (Reader.Releases calibration released session.inbox.guard) panel opener worker)
    (hstatus : panel.status ≠ .running) {deed : Deed} (hstart : session.NoStart deed)
    (hfree : session.Unhindered deed) :
    ∃ entered opener worker,
      Wanes origin (taken ++ (session.undergo deed).1) (fresh ++ entered) (session.undergo deed).2 ∧
      (session.undergo deed).2.Lingers
        (Reader.Releases calibration released (session.undergo deed).2.inbox.guard) panel opener
        worker := by
  rcases acts_or_takes hlingers.producer deed with hacts | htakes
  . cases hacts with
    | start =>
      change ∃ entered opener worker, Wanes origin (taken ++ []) (fresh ++ entered) session.start.1 ∧
        session.start.1.Lingers (Reader.Releases calibration released session.start.1.inbox.guard)
          panel opener worker
      rcases start_cases hpoised with ⟨-, producer, -, hok⟩ | ⟨fault, herror⟩
      . change session.start.2 ≠ .ok () at hstart
        rw [hok] at hstart
        contradiction
      . rw [herror, List.append_nil]
        refine ⟨[], opener, worker, ?_, lingers_of_same hlingers rfl rfl⟩
        rw [List.append_nil]
        exact ⟨h.stream, h.guard, h.stopped⟩
    | stop =>
      obtain ⟨entered, worker, hwanes, hnext⟩ := wanes_stop h hlingers hstatus
      refine ⟨entered, opener, worker, ?_, hnext⟩
      exact (List.append_nil taken).symm ▸ hwanes
    | push event => contradiction
    | work =>
      obtain ⟨entered, worker, hwanes, hnext⟩ := wanes_work h hpoised hlingers hfree
      refine ⟨entered, opener, worker, ?_, hnext⟩
      exact (List.append_nil taken).symm ▸ hwanes
    | plug opener =>
      refine ⟨[], opener, worker, ?_, producer_plug hlingers.producer opener, hlingers.isIdle,
        hlingers.worker⟩
      rw [List.append_nil]
      exact wanes_of_same h rfl rfl rfl
  . refine ⟨[], opener, worker, ?_, ?_⟩
    . rw [List.append_nil]
      exact wanes_of_same h htakes.pending htakes.guard htakes.isStarted
    . rw [htakes.guard]
      exact lingers_of_same hlingers htakes.producer htakes.isStarted

theorem wanes_undergoAll (h : Wanes origin taken fresh session) (hpoised : session.Poised)
    (hlingers :
      session.Lingers (Reader.Releases calibration released session.inbox.guard) panel opener worker)
    (hstatus : panel.status ≠ .running) {deeds : List Deed}
    (hstart : session.Throughout NoStart deeds) (hfree : session.Throughout Unhindered deeds) :
    let last := (session.undergoAll deeds).2
    ∃ entered opener worker,
      Wanes origin (taken ++ (session.undergoAll deeds).1) (fresh ++ entered) last ∧
      last.Lingers (Reader.Releases calibration released last.inbox.guard) panel opener worker := by
  induction deeds generalizing session taken fresh opener worker with
  | nil =>
    refine ⟨[], opener, worker, ?_, hlingers⟩
    rw [List.append_nil]
    exact (List.append_nil taken).symm ▸ h
  | cons deed deeds ih =>
    obtain ⟨entered, opener, worker, hnext, hlater⟩ :=
      wanes_undergo h hpoised hlingers hstatus hstart.1 hfree.1
    obtain ⟨entered', opener, worker, hlast, hend⟩ :=
      ih hnext (poised_undergo hpoised deed) hlater hstart.2 hfree.2
    refine ⟨entered ++ entered', opener, worker, ?_, hend⟩
    rw [← List.append_assoc]
    unfold undergoAll
    rw [← List.append_assoc]
    exact hlast

end

theorem carries_undergo (h : Carries taken session) {deed : Deed}
    (hallows : session.AllowsDeed deed) :
    Carries (taken ++ (session.undergo deed).1) (session.undergo deed).2 := by
  cases deed with
  | op op => exact carries_perform h hallows
  | forward =>
    have hdrain : session.Allows .drain := trivial
    exact carries_perform h hdrain
  | plug opener =>
    unfold undergo
    rw [List.append_nil]
    constructor
    . unfold plug
      rw [Producer.waiting_plug]
      exact h.tracks
    . intro hstopped
      exact Producer.isIdle_plug (h.isIdle hstopped) opener
    . exact h.isOpen

theorem carries_undergoAll (h : Carries taken session) {deeds : List Deed}
    (hdeeds : session.Throughout AllowsDeed deeds) :
    Carries (taken ++ (session.undergoAll deeds).1) (session.undergoAll deeds).2 := by
  induction deeds generalizing session taken with
  | nil => exact (List.append_nil taken).symm ▸ h
  | cons deed deeds ih =>
    unfold undergoAll
    rw [← List.append_assoc]
    exact ih (carries_undergo h hdeeds.1) hdeeds.2

theorem lingers_of_meets (hpoised : session.Poised) (hproducer : session.producer = .panel panel)
    {reader : Reader} (hworker : panel.worker = some reader) {fault : FetchFault}
    (hmeets : reader.Meets fault) :
    session.work.isStarted = true ∧ session.work.inbox = session.inbox ∧
      ∃ left, session.work.Lingers
        (Reader.Releases reader.calibration (reader.tracker.release 0).2 session.work.inbox.guard)
        { panel with status := fault.ending } panel.opener (some left) := by
  have hstarted := isStarted_of_worker hpoised hproducer hworker
  have hwork := work_of_panel hproducer hworker
  rw [Reader.step_of_meets hmeets] at hwork
  refine ⟨hstarted, ?_, { reader with feed := reader.feed.fetch.2 }.leave, ?_, ?_, ?_⟩
  . rw [hwork]
  . rw [hwork]
    rfl
  . intro hstopped
    change session.isStarted = false at hstopped
    rw [hstarted] at hstopped
    contradiction
  . intro left hleft
    obtain rfl := Option.some.inj hleft
    have hended : ({ reader with feed := reader.feed.fetch.2 } : Reader).hasEnded = false :=
      hmeets.hasEnded
    exact Reader.releases_leave hended _

structure Closes (capabilities : Device.Capabilities) (session : Session) (panel : Panel) :
    Prop where
  producer : session.producer = .panel panel
  capabilities : panel.capabilities = some capabilities
  stopped : session.isStarted = false → ∀ key, session.inbox.guard.isDown key = false
  worker : ∀ reader, panel.worker = some reader → reader.Closes session.inbox.guard

section

variable {capabilities : Device.Capabilities}

theorem closes_of_same (h : session.Closes capabilities panel)
    (hproducer : next.producer = session.producer)
    (hguard : next.inbox.guard = session.inbox.guard)
    (hstarted : next.isStarted = session.isStarted) : next.Closes capabilities panel := by
  constructor
  . exact hproducer.trans h.producer
  . exact h.capabilities
  . rw [hstarted, hguard]
    exact h.stopped
  . rw [hguard]
    exact h.worker

theorem closes_start (h : session.Closes capabilities panel) (hpoised : session.Poised)
    (hprotocol : capabilities.protocol.isMultiTouch) (hmulti : capabilities.isMultiTouch = true) :
    ∃ panel, session.start.1.Closes capabilities panel := by
  rcases start_cases hpoised with ⟨hstopped, producer, hok, hstart⟩ | ⟨fault, hstart⟩
  . rw [hstart]
    unfold Producer.start at hok
    rw [h.producer] at hok
    obtain ⟨started, hpanel, rfl⟩ := exists_of_map_eq_ok hok
    obtain ⟨device, known, hknown, rfl⟩ := Panel.start_eq_ok hpanel
    obtain rfl := Option.some.inj (hknown.symm.trans h.capabilities)
    refine ⟨_, rfl, h.capabilities, ?_, ?_⟩
    . intro hagain
      contradiction
    . intro reader hreader
      obtain rfl := Option.some.inj hreader
      exact Reader.closes_new hprotocol hmulti (h.stopped hstopped) device.feed panel.mouseSurface
  . rw [hstart]
    exact ⟨panel, closes_of_same h rfl rfl rfl⟩

theorem closes_stop (h : session.Closes capabilities panel) :
    ∃ panel, session.stop.Closes capabilities panel := by
  cases hstarted : session.isStarted with
  | false =>
    rw [stop_of_not_isStarted hstarted]
    exact ⟨panel, h⟩
  | true =>
    have hempty : session.stop.inbox.guard = .empty := by
      unfold stop
      rw [if_pos hstarted]
      rfl
    obtain ⟨inbox, hproducer⟩ := producer_stop h.producer hstarted
    refine ⟨_, hproducer, ?_, ?_, ?_⟩
    . unfold Panel.stop
      cases panel.worker <;> exact h.capabilities
    . intro _ key
      rw [hempty]
      rfl
    . intro reader hreader
      rw [Panel.worker_stop] at hreader
      contradiction

theorem closes_work (h : session.Closes capabilities panel) (hpoised : session.Poised) :
    ∃ panel, session.work.Closes capabilities panel := by
  cases hworker : panel.worker with
  | none =>
    rw [work_of_worker_eq_none h.producer hworker]
    exact ⟨panel, h⟩
  | some reader =>
    have hstarted := isStarted_of_worker hpoised h.producer hworker
    rw [work_of_panel h.producer hworker]
    refine ⟨_, rfl, h.capabilities, ?_, ?_⟩
    . intro hstopped
      change session.isStarted = false at hstopped
      rw [hstarted] at hstopped
      contradiction
    . intro later hlater
      obtain rfl := Option.some.inj hlater
      exact Reader.closes_step (h.worker reader hworker) (hpoised.isOpen hstarted) session.now

theorem closes_undergo (h : session.Closes capabilities panel) (hpoised : session.Poised)
    (hprotocol : capabilities.protocol.isMultiTouch) (hmulti : capabilities.isMultiTouch = true)
    {deed : Deed} (hpush : ∀ event, deed ≠ .op (.push event)) :
    ∃ panel, (session.undergo deed).2.Closes capabilities panel := by
  rcases acts_or_takes h.producer deed with hacts | htakes
  . cases hacts with
    | start => exact closes_start h hpoised hprotocol hmulti
    | stop => exact closes_stop h
    | push event => exact absurd rfl (hpush event)
    | work => exact closes_work h hpoised
    | plug opener =>
      exact ⟨{ panel with opener }, producer_plug h.producer opener, h.capabilities, h.stopped,
        h.worker⟩
  . exact ⟨panel, closes_of_same h htakes.producer htakes.guard htakes.isStarted⟩

theorem closes_undergoAll (h : session.Closes capabilities panel) (hpoised : session.Poised)
    (hprotocol : capabilities.protocol.isMultiTouch) (hmulti : capabilities.isMultiTouch = true)
    {deeds : List Deed} (hpush : ∀ event, .op (.push event) ∉ deeds) :
    ∃ panel, (session.undergoAll deeds).2.Closes capabilities panel := by
  induction deeds generalizing session panel with
  | nil => exact ⟨panel, h⟩
  | cons deed deeds ih =>
    have hfirst : ∀ event, deed ≠ .op (.push event) := by
      rintro event rfl
      exact hpush event List.mem_cons_self
    obtain ⟨panel, hnext⟩ := closes_undergo h hpoised hprotocol hmulti hfirst
    exact ih hnext (poised_undergo hpoised deed)
      fun event hmem => hpush event (List.mem_cons_of_mem _ hmem)

theorem isDown_of_closes (h : session.Closes capabilities panel)
    (hended : session.producer.hasEnded = true) (key : Key) :
    session.inbox.guard.isDown key = false := by
  rw [h.producer] at hended
  obtain ⟨reader, hworker, hreader⟩ := (Option.any_eq_true _ _).1 hended
  exact Reader.isDown_of_closes (h.worker reader hworker) hreader key

theorem not_mem_of_unhindered {deeds : List Deed} (h : session.Throughout Unhindered deeds)
    (event : Event) : .op (.push event) ∉ deeds := by
  induction deeds generalizing session with
  | nil => exact List.not_mem_nil
  | cons deed deeds ih =>
    intro hmem
    rcases List.mem_cons.1 hmem with rfl | hlater
    . exact h.1
    . exact ih h.2 hlater

end

theorem closes_begin {settings : Settings} {pump : Option Host.Pump} {opener : Device.Opener}
    (h : Session.begin settings (.new .panel pump opener) = .ok session)
    {capabilities : Device.Capabilities} (hproducer : session.producer = .panel panel)
    (hknown : panel.capabilities = some capabilities) : session.Closes capabilities panel := by
  have hidle := (poised_begin h).isIdle
  obtain ⟨prepared, -, rfl⟩ := begin_eq_ok h
  constructor
  . exact hproducer
  . exact hknown
  . exact fun _ _ => rfl
  . intro reader hworker
    have hnone := hidle rfl
    rw [hproducer] at hnone
    change panel.worker = none at hnone
    rw [hworker] at hnone
    contradiction

/--
The worker of a panel meets a fault with which reading ends. If the device is gone, the status says
so for ever, the session never runs again, no start succeeds, and nothing comes out of the producer
once the worker has ended. After any other fault the status says so until the next start that
succeeds. It takes a stop first, and then succeeds exactly if the recorded path can be opened; the
contacts are followed anew.

Either way, as long as the worker finds room, a contact gets no sample but one up, and that if it
was down. All that were down have got it after a stop. A worker that comes to its end has lifted
those that its tracker had down, which are all if the panel tells several contacts apart and nothing
was put in past it.
-/
theorem ends_undergoAll {settings : Settings} {pump : Option Host.Pump} {opener : Device.Opener}
    (hsession : Session.begin settings (.new .panel pump opener) = .ok session)
    {deeds : List Deed} {reader : Reader} {fault : FetchFault}
    (hproducer : (session.undergoAll deeds).2.producer = .panel panel)
    (hworker : panel.worker = some reader) (hmeets : reader.Meets fault) :
    let taken := (session.undergoAll deeds).1
    let struck := (session.undergoAll deeds).2.work
    let down := struck.inbox.guard
    let surface := if settings.drivesMouse then some settings.reference else none
    ∃ path device capabilities,
      (Panel.new opener).locate settings = .ok path ∧ opener path = .ok device ∧
      device.survey.capabilities = .ok capabilities ∧
      (fault.isDisconnect = true → ∀ more,
        let later := (struck.undergoAll more).2
        later.producer.status = .disconnected ∧ later.isRunning = false ∧
        later.start.2 = .error (if later.isStarted then .alreadyRunning else .disconnected) ∧
        (later.producer.hasEnded = true ∨ later.isStarted = false →
          ∀ yet, (later.undergoAll yet).2.producer.IsSpent)) ∧
      (fault.isDisconnect = false → ∀ more, struck.Throughout NoStart more →
        let later := (struck.undergoAll more).2
        later.producer.status = .failed ∧ later.isRunning = false ∧
        (later.isStarted = true → later.start.2 = .error .alreadyRunning) ∧
        (later.isStarted = false → ∀ opener',
          let again := (later.plug opener').start
          match opener' path with
          | .ok device =>
            again.2 = .ok () ∧ again.1.isRunning = true ∧
              ∃ panel, again.1.producer = .panel panel ∧
                panel.worker = some (.new device.feed capabilities surface)
          | .error cause => again.2 = .error (.deviceOpen path cause))) ∧
      (session.Throughout AllowsDeed deeds → ∀ key,
        down.isDown key = true ↔
          Stroke.IsOpen (ofKey key (Event.samples (taken ++ struck.pending)))) ∧
      ∀ more, fault.isDisconnect = true ∨ struck.Throughout NoStart more →
        struck.Throughout Unhindered more →
        let later := (struck.undergoAll more).2
        ∃ fresh, (struck.undergoAll more).1 ++ later.pending = struck.pending ++ fresh ∧
          down.Lifts later.inbox.guard (Event.samples fresh) ∧
          (later.isStarted = false → down.LiftsAll (Event.samples fresh)) ∧
          (later.producer.hasEnded = true →
            (∀ transition ∈ (reader.tracker.release 0).2,
              later.inbox.guard.isDown (reader.calibration.mark transition).key = false) ∧
            (capabilities.protocol.isMultiTouch → (∀ event, .op (.push event) ∉ deeds) →
              down.LiftsAll (Event.samples fresh))) := by
  intro taken struck down surface
  have hbegin := poised_begin hsession
  have hpoised : (session.undergoAll deeds).2.Poised := poised_undergoAll hbegin deeds
  obtain ⟨hstarted, hinbox, left, hreleases⟩ := lingers_of_meets hpoised hproducer hworker hmeets
  have hleaves := lingers_imp hreleases fun _ h => h.leaves
  have hstruck : struck.Poised := poised_undergo hpoised (.op .work)
  obtain ⟨path, device, capabilities, first, hlocate, hopen, hknown, hfirst, hprepared⟩ :=
    records_begin hsession
  obtain ⟨panel', hsame, hrecords⟩ := records_undergoAll hfirst hprepared deeds
  obtain rfl := Producer.panel.inj (hproducer.symm.trans hsame)
  have hdevice : panel.device = none := by
    apply hrecords.device
    rw [hworker]
    exact Option.some_ne_none _
  refine ⟨path, device, capabilities, hlocate, hopen, hknown, ?_, ?_, ?_, ?_⟩
  . intro hgone
    have hending : fault.ending = .disconnected := if_pos hgone
    exact disconnected_undergoAll hstruck hleaves hending
  . intro hthere more hmore
    have hending : fault.ending = .failed := by
      unfold FetchFault.ending
      rw [hthere]
      rfl
    exact failed_undergoAll hstruck hleaves hending
      ⟨hrecords.path, hrecords.capabilities, hrecords.mouseSurface, hrecords.device⟩ hdevice hmore
  . intro hallows key
    have hcarries := carries_undergoAll (carries_begin hsession) hallows
    have hwaiting : (session.undergoAll deeds).2.producer.waiting = [] := by
      rw [hproducer]
      change panel.waiting = []
      rw [Panel.waiting_of_worker hworker]
      exact hmeets.waiting
    have htracks := (sound_of_carries hcarries hwaiting).tracks
    rw [← hinbox] at htracks
    have hpending : struck.pending = (session.undergoAll deeds).2.pending := by
      unfold pending
      rw [hinbox]
      rfl
    rw [hpending]
    exact htracks.isDown_iff key
  . intro more hmore hfree later
    have hending : fault.ending ≠ .running := by
      unfold FetchFault.ending
      split <;> exact nofun
    have hstart : struck.Throughout NoStart more := by
      rcases hmore with hgone | hmore
      . exact noStart_of_disconnected hstruck hleaves Reader.isSteady_leaves (if_pos hgone) more
      . exact hmore
    have hwanes : Wanes struck [] [] struck := by
      refine ⟨(List.append_nil _).symm, Guard.lifts_refl _, ?_⟩
      intro hstopped
      rw [hstarted] at hstopped
      contradiction
    obtain ⟨fresh, opener', worker', hlater, hlingers⟩ :=
      wanes_undergoAll hwanes hstruck hreleases hending hstart hfree
    refine ⟨fresh, hlater.stream, hlater.guard, ?_, ?_⟩
    . intro hstopped
      exact Guard.liftsAll_of_lifts hlater.guard (hlater.stopped hstopped)
    . intro hended
      refine ⟨fun _ => isDown_of_lingers hlingers hended, ?_⟩
      intro hprotocol hpush
      have hmulti := (Device.Survey.isMultiTouch_of_capabilities hknown).trans hprotocol
      obtain ⟨_, hmet⟩ := closes_undergoAll (closes_begin hsession hfirst hprepared.capabilities)
        hbegin hprotocol hmulti hpush
      obtain ⟨_, hleft⟩ := closes_work hmet hpoised
      obtain ⟨_, hcloses⟩ :=
        closes_undergoAll hleft hstruck hprotocol hmulti (not_mem_of_unhindered hfree)
      exact Guard.liftsAll_of_lifts hlater.guard (isDown_of_closes hcloses hended)

def lost : Device := { touched with feed := { touched.feed with final := .numbered 19 } }

theorem ends_undergoAll_lost :
    let deeds : List Deed := .op .start :: List.replicate 5 (.op .work)
    let more : List Deed := [.op .work, .op .stop]
    ∃ session panel reader,
      Session.begin driving (.new .panel none fun _ => .ok lost) = .ok session ∧
      (session.undergoAll deeds).2.producer = .panel panel ∧ panel.worker = some reader ∧
      reader.Meets (.numbered 19) ∧
      let struck := (session.undergoAll deeds).2.work
      let later := (struck.undergoAll more).2
      struck.inbox.guard.isDown .primary = true ∧
      later.producer.status = .disconnected ∧ later.start.2 = .error .disconnected ∧
      ∃ fresh, later.pending = struck.pending ++ fresh ∧
        struck.inbox.guard.LiftsAll (Event.samples fresh) := by
  intro deeds more
  have hsession : ∃ session panel reader,
      Session.begin driving (.new .panel none fun _ => .ok lost) = .ok session ∧
      (session.undergoAll deeds).2.producer = .panel panel ∧ panel.worker = some reader ∧
      reader.Meets (.numbered 19) :=
    ⟨_, _, _, rfl, rfl, rfl, rfl, rfl, rfl, rfl, rfl, rfl, rfl, rfl, rfl⟩
  obtain ⟨session, panel, reader, hsession, hproducer, hworker, hmeets⟩ := hsession
  refine ⟨session, panel, reader, hsession, hproducer, hworker, hmeets, ?_⟩
  intro struck later
  obtain ⟨path, device, capabilities, -, -, -, hgone, -, -, hlifts⟩ :=
    ends_undergoAll hsession hproducer hworker hmeets
  have hrun : struck.Permits .work ∧ struck.inbox.guard.isDown .primary = true ∧
      later.isStarted = false := by
    obtain rfl := Except.ok.inj hsession
    decide +kernel
  have hfree : struck.Throughout Unhindered more := ⟨hrun.1, trivial, trivial⟩
  obtain ⟨hstatus, -, hstart, -⟩ := hgone rfl more
  obtain ⟨fresh, hstream, -, hstopped, -⟩ := hlifts more (.inl rfl) hfree
  rw [if_neg (by rw [hrun.2.2]; exact Bool.false_ne_true)] at hstart
  exact ⟨hrun.2.1, hstatus, hstart, fresh, hstream, hstopped hrun.2.2⟩

end Session

end TouchPanel
