import TouchPanel.Proofs.Producer.Ending
import TouchPanel.Proofs.Session.Starting

/-!
This module contains how a session goes on whose panel has met a fault with which reading ends. A
device that is gone is gone for the session, whatever is done with it
(`Session.disconnected_undergoAll`); after any other fault the session can be stopped and then
started again, with the recorded path and nothing else of what was before
(`Session.failed_undergoAll`).
-/

namespace TouchPanel

namespace Producer

def IsSpent (producer : Producer) : Prop :=
  ∀ now inbox, (producer.pull now inbox).2 = inbox ∧ (producer.work now inbox).2 = inbox ∧
    (producer.stop now inbox).2 = inbox

theorem isSpent_of_hasEnded {p : Panel}
    (h : ∀ reader, p.worker = some reader → reader.hasEnded = true) : (panel p).IsSpent := by
  intro now inbox
  refine ⟨rfl, ?_⟩
  unfold work stop Panel.work Panel.stop
  dsimp only
  cases hworker : p.worker with
  | none => exact ⟨rfl, rfl⟩
  | some reader =>
    have hended := h reader hworker
    dsimp only
    refine ⟨?_, ?_⟩
    . rw [Reader.step_of_hasEnded hended]
    . rw [Reader.finish_of_hasEnded]
      exact hended

end Producer

namespace Session

def Throughout (holds : Session → Deed → Prop) (session : Session) : List Deed → Prop
  | [] => True
  | deed :: deeds => holds session deed ∧ (session.undergo deed).2.Throughout holds deeds

def NoStart (session : Session) : Deed → Prop
  | .op .start => session.start.2 ≠ .ok ()
  | _ => True

variable {session next : Session} {panel : Panel}

inductive Deed.Acts : Deed → Prop where
  | start : Acts (.op .start)
  | stop : Acts (.op .stop)
  | push (event : Event) : Acts (.op (.push event))
  | work : Acts (.op .work)
  | plug (opener : Device.Opener) : Acts (.plug opener)

theorem takes_producer {producer : Producer} (h : producer = session.producer) :
    session.Takes [] { session with producer } := ⟨rfl, rfl, rfl, rfl, h, rfl⟩

theorem acts_or_takes (hproducer : session.producer = .panel panel) (deed : Deed) :
    deed.Acts ∨ session.Takes (session.undergo deed).1 (session.undergo deed).2 := by
  have htakes (op : Op) : op.watches → op ≠ .work →
      session.Takes (session.perform op).1 (session.perform op).2 := takes_of_watches hproducer
  cases deed with
  | forward => exact .inr (htakes .drain rfl nofun)
  | plug opener => exact .inl (.plug opener)
  | op op =>
    cases op with
    | start => exact .inl .start
    | stop => exact .inl .stop
    | push event => exact .inl (.push event)
    | work => exact .inl .work
    | poll => exact .inr (htakes .poll rfl nofun)
    | drain => exact .inr (htakes .drain rfl nofun)
    | pull => exact .inr (htakes .pull rfl nofun)
    | elapse span => exact .inr (htakes (.elapse span) rfl nofun)
    | receive events =>
      apply Or.inr
      apply takes_producer
      rw [hproducer]
      rfl
    | prompt event =>
      apply Or.inr
      apply takes_producer
      rw [hproducer]
      rfl

theorem producer_stop (hproducer : session.producer = .panel panel)
    (hstarted : session.isStarted = true) :
    ∃ inbox, session.stop.producer = .panel (panel.stop session.now inbox).1 := by
  unfold stop Producer.stop
  rw [if_pos hstarted, hproducer]
  exact ⟨_, rfl⟩

theorem producer_plug (hproducer : session.producer = .panel panel) (opener : Device.Opener) :
    (session.plug opener).producer = .panel { panel with opener } := by
  change session.producer.plug opener = _
  rw [hproducer]
  rfl

theorem isStarted_of_worker (hpoised : session.Poised) (hproducer : session.producer = .panel panel)
    {reader : Reader} (hworker : panel.worker = some reader) : session.isStarted = true := by
  rw [← Bool.not_eq_false]
  intro hstopped
  have hidle := hpoised.isIdle hstopped
  rw [hproducer] at hidle
  change panel.worker = none at hidle
  rw [hworker] at hidle
  contradiction

theorem work_of_worker_eq_none (hproducer : session.producer = .panel panel)
    (hworker : panel.worker = none) : session.work = session := by
  have hidle : session.producer.IsIdle := by
    rw [hproducer]
    exact hworker
  unfold work
  rw [Producer.work_of_isIdle hidle]

/--
Since its worker met a fault, a panel has changed only in what can be opened, and in how far the
worker has come, of which something still holds.
-/
structure Lingers (holds : Reader → Prop) (origin : Panel) (session : Session)
    (opener : Device.Opener) (worker : Option Reader) : Prop where
  producer : session.producer = .panel { origin with opener, worker }
  isIdle : session.isStarted = false → worker = none
  worker : ∀ reader, worker = some reader → holds reader

section

variable {holds : Reader → Prop} {origin : Panel} {opener : Device.Opener} {worker : Option Reader}

theorem lingers_of_same (h : session.Lingers holds origin opener worker)
    (hproducer : next.producer = session.producer) (hstarted : next.isStarted = session.isStarted) :
    next.Lingers holds origin opener worker := by
  constructor
  . exact hproducer.trans h.producer
  . rw [hstarted]
    exact h.isIdle
  . exact h.worker

theorem lingers_imp (h : session.Lingers holds origin opener worker) {implied : Reader → Prop}
    (himp : ∀ reader, holds reader → implied reader) :
    session.Lingers implied origin opener worker :=
  ⟨h.producer, h.isIdle, fun reader hworker => himp reader (h.worker reader hworker)⟩

theorem lingers_work (h : session.Lingers holds origin opener worker)
    (hsteady : Reader.IsSteady holds) :
    ∃ worker, session.work.Lingers holds origin opener worker := by
  cases hworker : worker with
  | none =>
    rw [work_of_worker_eq_none h.producer hworker]
    exact ⟨worker, h⟩
  | some reader =>
    obtain ⟨hnext, hstatus⟩ := hsteady reader (h.worker reader hworker) session.now session.inbox
    rw [work_of_panel h.producer hworker, hstatus]
    refine ⟨some (reader.step session.now session.inbox).1, rfl, ?_, ?_⟩
    . intro hstopped
      rw [h.isIdle hstopped] at hworker
      contradiction
    . intro later hlater
      obtain rfl := Option.some.inj hlater
      exact hnext

theorem lingers_undergo (hpoised : session.Poised)
    (h : session.Lingers holds origin opener worker)
    (hsteady : Reader.IsSteady holds)
    (hstatus : origin.status ≠ .running) {deed : Deed} (hstart : session.NoStart deed) :
    ∃ opener worker, (session.undergo deed).2.Lingers holds origin opener worker := by
  rcases acts_or_takes h.producer deed with hacts | htakes
  . cases hacts with
    | start =>
      change ∃ opener worker, session.start.1.Lingers holds origin opener worker
      rcases start_cases hpoised with ⟨-, producer, -, hok⟩ | ⟨fault, herror⟩
      . change session.start.2 ≠ .ok () at hstart
        rw [hok] at hstart
        contradiction
      . rw [herror]
        exact ⟨opener, worker, lingers_of_same h rfl rfl⟩
    | stop =>
      change ∃ opener worker, session.stop.Lingers holds origin opener worker
      cases hstarted : session.isStarted with
      | false =>
        rw [stop_of_not_isStarted hstarted]
        exact ⟨opener, worker, h⟩
      | true =>
        obtain ⟨inbox, hproducer⟩ := producer_stop h.producer hstarted
        rw [Panel.stop_of_ne_running] at hproducer
        . refine ⟨opener, none, hproducer, fun _ => rfl, ?_⟩
          intro reader hnone
          contradiction
        . exact hstatus
    | push event => exact ⟨opener, worker, lingers_of_same h rfl rfl⟩
    | work =>
      obtain ⟨worker, hwork⟩ := lingers_work h hsteady
      exact ⟨opener, worker, hwork⟩
    | plug opener => exact ⟨opener, worker, producer_plug h.producer opener, h.isIdle, h.worker⟩
  . exact ⟨opener, worker, lingers_of_same h htakes.producer htakes.isStarted⟩

theorem lingers_undergoAll (hpoised : session.Poised)
    (h : session.Lingers holds origin opener worker)
    (hsteady : Reader.IsSteady holds)
    (hstatus : origin.status ≠ .running) {deeds : List Deed}
    (hstart : session.Throughout NoStart deeds) :
    ∃ opener worker, (session.undergoAll deeds).2.Lingers holds origin opener worker := by
  induction deeds generalizing session opener worker with
  | nil => exact ⟨opener, worker, h⟩
  | cons deed deeds ih =>
    obtain ⟨hfirst, hrest⟩ := hstart
    obtain ⟨opener, worker, hnext⟩ := lingers_undergo hpoised h hsteady hstatus hfirst
    exact ih (poised_undergo hpoised deed) hnext hrest

theorem start_of_disconnected (h : session.Lingers holds origin opener worker)
    (hstatus : origin.status = .disconnected) :
    session.start.2 = .error (if session.isStarted then .alreadyRunning else .disconnected) := by
  unfold start
  split
  . rfl
  . next hstopped =>
    rw [Bool.not_eq_true] at hstopped
    have hstart : session.producer.start session.now = .error .disconnected := by
      unfold Producer.start
      rw [h.producer]
      dsimp only
      rw [Panel.start_of_disconnected]
      . rfl
      . exact h.isIdle hstopped
      . exact hstatus
    rw [hstart]

theorem noStart_of_disconnected (hpoised : session.Poised)
    (h : session.Lingers holds origin opener worker)
    (hsteady : Reader.IsSteady holds)
    (hstatus : origin.status = .disconnected) (deeds : List Deed) :
    session.Throughout NoStart deeds := by
  induction deeds generalizing session opener worker with
  | nil => trivial
  | cons deed deeds ih =>
    have hstart : session.NoStart deed := by
      unfold NoStart
      split
      . rw [start_of_disconnected h hstatus]
        exact nofun
      . trivial
    have hrunning : origin.status ≠ .running := by
      rw [hstatus]
      exact nofun
    obtain ⟨opener, worker, hnext⟩ := lingers_undergo hpoised h hsteady hrunning hstart
    exact ⟨hstart, ih (poised_undergo hpoised deed) hnext⟩

theorem start_of_failed (h : session.Lingers holds origin opener worker)
    (hstopped : session.isStarted = false) (hstatus : origin.status ≠ .disconnected)
    {path : String} (hpath : origin.path = some path) {capabilities : Device.Capabilities}
    (hknown : origin.capabilities = some capabilities) (hdevice : origin.device = none) :
    session.start =
      match opener path with
      | .ok device =>
        ({ session with
          producer := .panel { origin with
            opener
            worker := some (.new device.feed capabilities origin.mouseSurface)
            status := .running }
          inbox := session.inbox.setOpen true
          isStarted := true }, .ok ())
      | .error cause =>
        ({ session with inbox := session.inbox.setOpen false }, .error (.deviceOpen path cause)) := by
  have hidle : ({ origin with opener, worker } : Panel).worker = none := h.isIdle hstopped
  have hstart := Panel.start_of_failed hidle hstatus hpath hknown hdevice
  unfold start Producer.start
  rw [hstopped, if_neg Bool.false_ne_true, h.producer]
  dsimp only
  rw [hstart]
  dsimp only
  cases opener path <;> rfl

theorem status_of_lingers (h : session.Lingers holds origin opener worker)
    (hstatus : origin.status ≠ .running) :
    session.producer.status = origin.status ∧ session.isRunning = false := by
  have hsame : session.producer.status = origin.status := by
    rw [h.producer]
    rfl
  refine ⟨hsame, ?_⟩
  unfold isRunning
  rw [hsame, beq_eq_false_iff_ne.2 hstatus, Bool.and_false]

end

/--
What a panel has recorded when it was prepared, and that it has given its device to its worker if it
has one.
-/
structure Records (path : String) (capabilities : Device.Capabilities) (surface : Option Reference)
    (panel : Panel) : Prop where
  path : panel.path = some path
  capabilities : panel.capabilities = some capabilities
  mouseSurface : panel.mouseSurface = surface
  device : panel.worker ≠ none → panel.device = none

section

variable {path : String} {capabilities : Device.Capabilities} {surface : Option Reference}

theorem records_begin {settings : Settings} {pump : Option Host.Pump} {opener : Device.Opener}
    (h : Session.begin settings (.new .panel pump opener) = .ok session) :
    ∃ path device capabilities panel, (Panel.new opener).locate settings = .ok path ∧
      opener path = .ok device ∧ device.survey.capabilities = .ok capabilities ∧
      session.producer = .panel panel ∧
      Records path capabilities (if settings.drivesMouse then some settings.reference else none)
        panel := by
  obtain ⟨prepared, hprepare, rfl⟩ := begin_eq_ok h
  obtain ⟨panel, hpanel, rfl⟩ := exists_of_map_eq_ok hprepare
  obtain ⟨path, hlocate, hpath⟩ := Panel.locate_of_prepare hpanel
  obtain ⟨path', device, capabilities, hopen, hknown, rfl⟩ := Panel.prepare_eq_ok hpanel
  obtain rfl := Option.some.inj hpath
  refine ⟨path', device, capabilities, _, hlocate, of_mapError_eq_ok hopen, hknown, rfl, rfl, rfl,
    rfl, ?_⟩
  intro hworker
  contradiction

theorem records_undergo (hproducer : session.producer = .panel panel)
    (h : Records path capabilities surface panel) (deed : Deed) :
    ∃ panel, (session.undergo deed).2.producer = .panel panel ∧
      Records path capabilities surface panel := by
  rcases acts_or_takes hproducer deed with hacts | htakes
  . cases hacts with
    | start =>
      change ∃ panel, session.start.1.producer = .panel panel ∧ _
      unfold start
      split
      . exact ⟨panel, hproducer, h⟩
      . cases hstart : session.producer.start session.now with
        | error => exact ⟨panel, hproducer, h⟩
        | ok producer =>
          unfold Producer.start at hstart
          rw [hproducer] at hstart
          obtain ⟨started, hpanel, rfl⟩ := exists_of_map_eq_ok hstart
          obtain ⟨device, capabilities', -, rfl⟩ := Panel.start_eq_ok hpanel
          exact ⟨_, rfl, h.path, h.capabilities, h.mouseSurface, fun _ => rfl⟩
    | stop =>
      change ∃ panel, session.stop.producer = .panel panel ∧ _
      cases hstarted : session.isStarted with
      | false =>
        rw [stop_of_not_isStarted hstarted]
        exact ⟨panel, hproducer, h⟩
      | true =>
        obtain ⟨inbox, hstop⟩ := producer_stop hproducer hstarted
        refine ⟨_, hstop, ?_⟩
        unfold Panel.stop
        cases hworker : panel.worker with
        | none => exact h
        | some reader =>
          refine ⟨h.path, h.capabilities, h.mouseSurface, ?_⟩
          intro hnone
          contradiction
    | push event => exact ⟨panel, hproducer, h⟩
    | work =>
      change ∃ panel, session.work.producer = .panel panel ∧ _
      unfold work Producer.work Panel.work
      rw [hproducer]
      dsimp only
      cases hworker : panel.worker with
      | none => exact ⟨panel, rfl, h⟩
      | some reader =>
        refine ⟨_, rfl, h.path, h.capabilities, h.mouseSurface, fun _ => h.device ?_⟩
        rw [hworker]
        exact Option.some_ne_none _
    | plug opener =>
      exact ⟨{ panel with opener }, producer_plug hproducer opener, h.path, h.capabilities,
        h.mouseSurface, h.device⟩
  . exact ⟨panel, htakes.producer.trans hproducer, h⟩

theorem records_undergoAll (hproducer : session.producer = .panel panel)
    (h : Records path capabilities surface panel) (deeds : List Deed) :
    ∃ panel, (session.undergoAll deeds).2.producer = .panel panel ∧
      Records path capabilities surface panel := by
  induction deeds generalizing session panel with
  | nil => exact ⟨panel, hproducer, h⟩
  | cons deed deeds ih =>
    obtain ⟨panel, hnext, hrecords⟩ := records_undergo hproducer h deed
    exact ih hnext hrecords

end

theorem disconnected_undergoAll {origin : Panel} {opener : Device.Opener} {worker : Option Reader}
    (hpoised : session.Poised) (h : session.Lingers Reader.Leaves origin opener worker)
    (hstatus : origin.status = .disconnected) (more : List Deed) :
    let later := (session.undergoAll more).2
    later.producer.status = .disconnected ∧ later.isRunning = false ∧
      later.start.2 = .error (if later.isStarted then .alreadyRunning else .disconnected) ∧
      (later.producer.hasEnded = true ∨ later.isStarted = false →
        ∀ yet, (later.undergoAll yet).2.producer.IsSpent) := by
  intro later
  have hrunning : origin.status ≠ .running := by
    rw [hstatus]
    exact nofun
  have hmore := noStart_of_disconnected hpoised h Reader.isSteady_leaves hstatus more
  obtain ⟨opener, worker, hlater⟩ :=
    lingers_undergoAll hpoised h Reader.isSteady_leaves hrunning hmore
  obtain ⟨hsame, hrests⟩ := status_of_lingers hlater hrunning
  refine ⟨hsame.trans hstatus, hrests, start_of_disconnected hlater hstatus, ?_⟩
  intro hended yet
  have hpoised' : later.Poised := poised_undergoAll hpoised more
  have hspent : later.Lingers (fun reader => reader.hasEnded = true) origin opener worker := by
    refine ⟨hlater.producer, hlater.isIdle, ?_⟩
    intro reader hworker
    rcases hended with hended | hstopped
    . rw [hlater.producer] at hended
      change worker.any Reader.hasEnded = true at hended
      rw [hworker] at hended
      exact hended
    . rw [hlater.isIdle hstopped] at hworker
      contradiction
  have hyet := noStart_of_disconnected hpoised' hspent Reader.isSteady_hasEnded hstatus yet
  obtain ⟨opener, worker, hlast⟩ :=
    lingers_undergoAll hpoised' hspent Reader.isSteady_hasEnded hrunning hyet
  rw [hlast.producer]
  exact Producer.isSpent_of_hasEnded hlast.worker

theorem failed_undergoAll {origin : Panel} {opener : Device.Opener} {worker : Option Reader}
    (hpoised : session.Poised) (h : session.Lingers Reader.Leaves origin opener worker)
    (hstatus : origin.status = .failed) {path : String} {capabilities : Device.Capabilities}
    {surface : Option Reference} (hrecords : Records path capabilities surface origin)
    (hdevice : origin.device = none) {more : List Deed} (hmore : session.Throughout NoStart more) :
    let later := (session.undergoAll more).2
    later.producer.status = .failed ∧ later.isRunning = false ∧
      (later.isStarted = true → later.start.2 = .error .alreadyRunning) ∧
      (later.isStarted = false → ∀ opener',
        let again := (later.plug opener').start
        match opener' path with
        | .ok device =>
          again.2 = .ok () ∧ again.1.isRunning = true ∧
            ∃ panel, again.1.producer = .panel panel ∧
              panel.worker = some (.new device.feed capabilities surface)
        | .error cause => again.2 = .error (.deviceOpen path cause)) := by
  intro later
  have hrunning : origin.status ≠ .running := by
    rw [hstatus]
    exact nofun
  obtain ⟨opener, worker, hlater⟩ :=
    lingers_undergoAll hpoised h Reader.isSteady_leaves hrunning hmore
  obtain ⟨hsame, hrests⟩ := status_of_lingers hlater hrunning
  refine ⟨hsame.trans hstatus, hrests, ?_, ?_⟩
  . intro hstarted
    unfold start
    rw [if_pos hstarted]
  . intro hstopped opener' again
    have hplugged : (later.plug opener').Lingers Reader.Leaves origin opener' worker :=
      ⟨producer_plug hlater.producer opener', hlater.isIdle, hlater.worker⟩
    have hgone : origin.status ≠ .disconnected := by
      rw [hstatus]
      exact nofun
    have hagain := start_of_failed hplugged hstopped hgone hrecords.path hrecords.capabilities
      hdevice
    rw [hrecords.mouseSurface] at hagain
    change again = _ at hagain
    rw [hagain]
    cases opener' path with
    | ok device => exact ⟨rfl, rfl, _, rfl, rfl⟩
    | error cause => rfl

end Session

end TouchPanel
