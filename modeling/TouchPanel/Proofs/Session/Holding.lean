import TouchPanel.Proofs.Producer.Holding
import TouchPanel.Proofs.Session.Forwarding

/-!
This module contains the proof that the relay of a session and its guard agree about the left button
(`Session.holds_performAll`), however the session is started and stopped and whatever the host has
for it. A stop empties the guard, and the next start releases the button, so they differ only while
the session is stopped.
-/

namespace TouchPanel.Session

open Relay (Knows)

def Op.isPush : Op → Bool
  | .push _ => true
  | _ => false

def Op.received : Op → List Host.Event
  | .receive events => events
  | _ => []

def pullIntakes (session : Session) (past : List Host.Event) : List Intake :=
  match session.isStarted, session.producer with
  | true, .host relay => relay.intakes past session.now session.inbox
  | _, _ => []

def intakes (session : Session) (past : List Host.Event) : Op → List Intake
  | .poll | .drain | .pull => session.pullIntakes past
  | _ => []

/--
The events that were taken since the last start, after an operation.
-/
def pastAfter (session : Session) (past : List Host.Event) : Op → List Host.Event
  | .poll | .drain | .pull => past ++ (session.pullIntakes past).map Intake.event
  | .start => if session.isStarted then past else []
  | _ => past

def intakesAll (session : Session) (past : List Host.Event) : List Op → List Intake
  | [] => []
  | op :: ops =>
    session.intakes past op ++
      (session.perform op).2.intakesAll (session.pastAfter past op) ops

structure Rests (session : Session) (relay : Relay) (pump : Host.Pump) : Prop where
  producer : session.producer = .host relay
  pump : relay.pump = some pump
  isStarted : session.isStarted = false
  guard : session.inbox.guard = .empty

/--
What holds of a session between any two operations, with the events that the host had, those that
were taken since the last start and all that were taken.
-/
structure Holds (given past : List Host.Event) (intakes : List Intake) (session : Session)
    (relay : Relay) (pump : Host.Pump) : Prop where
  runs : session.Relays relay pump ∧ Knows past relay.isLeftHeld session.inbox.guard ∨
    session.Rests relay pump
  taken : intakes.map Intake.event ++ pump.events = given
  handled : ∀ intake ∈ intakes, intake.IsHandled
  rejected : session.inbox.tally.rejected = UInt64.ofNat (intakes.countP Intake.isStray)
  implicitReleases : session.inbox.tally.implicitReleases =
    UInt64.ofNat (intakes.countP Intake.isRepeated)

variable {session next : Session} {relay : Relay} {pump : Host.Pump}
  {given past : List Host.Event} {intakes : List Intake}

theorem holds_begin {settings : Settings} {opener : Device.Opener}
    (h : Session.begin settings (.new .host (some pump) opener) = .ok session) :
    ∃ relay, Holds pump.events [] [] session relay pump := by
  obtain ⟨prepared, hprepare, rfl⟩ := begin_eq_ok h
  obtain rfl := Except.ok.inj hprepare
  exact ⟨_, Or.inr ⟨rfl, rfl, rfl, rfl⟩, rfl, List.forall_mem_nil _, rfl, rfl⟩

theorem producer_of_holds (h : Holds given past intakes session relay pump) :
    session.producer = .host relay :=
  h.runs.elim (fun hruns => hruns.1.producer) Rests.producer

theorem holds_takes (h : Holds given past intakes session relay pump) {more : List Event}
    (htakes : session.Takes more next) : Holds given past intakes next relay pump := by
  refine ⟨?_, h.taken, h.handled, ?_, ?_⟩
  . rw [htakes.guard]
    apply h.runs.imp
    . rintro ⟨hrelays, hknows⟩
      exact ⟨relays_takes hrelays htakes, hknows⟩
    . intro hrests
      refine ⟨?_, hrests.pump, ?_, ?_⟩
      . rw [htakes.producer]
        exact hrests.producer
      . rw [htakes.isStarted]
        exact hrests.isStarted
      . rw [htakes.guard]
        exact hrests.guard
  . rw [htakes.tally]
    exact h.rejected
  . rw [htakes.tally]
    exact h.implicitReleases

theorem holds_pull (h : Holds given past intakes session relay pump) :
    ∃ pulled rest, Holds given (past ++ (session.pullIntakes past).map Intake.event)
      (intakes ++ session.pullIntakes past) session.pull pulled rest := by
  unfold pullIntakes
  rcases h.runs with ⟨hrelays, hknows⟩ | hrests
  . have hhandles := Relay.handles_pullIntakes hknows hrelays.isOpen relay.reference session.now
      pump.events
    rw [pull_of_relays hrelays, ← Relay.fst_pullIntakes relay.reference session.now past,
      hrelays.isStarted, hrelays.producer]
    unfold Relay.intakes
    dsimp only
    rw [hrelays.isAttached, hrelays.pump]
    refine ⟨_, { pump with events := _ },
      ⟨Or.inl ⟨⟨rfl, rfl, rfl, rfl, hhandles.isOpen⟩, hhandles.knows⟩, ?_, ?_, ?_, ?_⟩⟩
    . rw [List.map_append, List.append_assoc, hhandles.taken]
      exact h.taken
    . rw [List.forall_mem_append]
      exact ⟨h.handled, hhandles.handled⟩
    . rw [List.countP_append, UInt64.ofNat_add, ← h.rejected]
      exact hhandles.rejected
    . rw [List.countP_append, UInt64.ofNat_add, ← h.implicitReleases]
      exact hhandles.implicitReleases
  . unfold pull
    rw [hrests.isStarted, if_neg Bool.false_ne_true, List.append_nil, List.map_nil,
      List.append_nil]
    exact ⟨relay, pump, h⟩

theorem holds_stop (h : Holds given past intakes session relay pump) :
    ∃ relay, Holds given past intakes session.stop relay pump := by
  rcases h.runs with ⟨hrelays, -⟩ | hrests
  . obtain ⟨hrejected, himplicit⟩ := session.inbox.tally.guarded_foldl
      (session.inbox.releaseAll session.now).1
    unfold stop
    rw [if_pos hrelays.isStarted, hrelays.producer]
    refine ⟨relay.stop, Or.inr ⟨rfl, ?_, rfl, rfl⟩, h.taken, h.handled,
      hrejected.trans h.rejected, himplicit.trans h.implicitReleases⟩
    unfold Relay.stop
    rw [if_pos hrelays.isAttached]
    exact hrelays.pump
  . rw [stop_of_not_isStarted hrests.isStarted]
    exact ⟨relay, h⟩

theorem holds_start (h : Holds given past intakes session relay pump) :
    ∃ relay, Holds given (session.pastAfter past .start) intakes session.start.1 relay pump := by
  unfold pastAfter
  dsimp only
  rcases h.runs with ⟨hrelays, -⟩ | hrests
  . have hstart : session.start.1 = session := by
      unfold start
      rw [if_pos hrelays.isStarted]
    rw [hstart, if_pos hrelays.isStarted]
    exact ⟨relay, h⟩
  . rw [hrests.isStarted, if_neg Bool.false_ne_true]
    unfold start
    rw [hrests.isStarted, if_neg Bool.false_ne_true]
    cases hstart : session.producer.start session.now with
    | error =>
      exact ⟨relay, Or.inr ⟨hrests.producer, hrests.pump, rfl, hrests.guard⟩, h.taken, h.handled,
        h.rejected, h.implicitReleases⟩
    | ok producer =>
      obtain ⟨running, rfl, hpump, hattached, hheld⟩ :=
        start_eq_ok hrests.producer hrests.pump hstart
      refine ⟨running, Or.inl ⟨⟨rfl, hpump, hattached, rfl, rfl⟩, ?_⟩, h.taken, h.handled,
        h.rejected, h.implicitReleases⟩
      change Knows [] running.isLeftHeld session.inbox.guard
      rw [hheld, hrests.guard]
      exact Relay.knows_empty

theorem takes_work (hproducer : session.producer = .host relay) :
    session.Takes [] session.work := by
  unfold work
  rw [hproducer]
  exact ⟨rfl, rfl, rfl, rfl, hproducer.symm, rfl⟩

theorem takes_prompt (hproducer : session.producer = .host relay) (event : Event) :
    session.Takes [] (session.perform (.prompt event)).2 := by
  unfold perform
  rw [hproducer]
  exact ⟨rfl, rfl, rfl, rfl, hproducer.symm, rfl⟩

theorem holds_receive (h : Holds given past intakes session relay pump)
    (events : List Host.Event) :
    Holds (given ++ events) past intakes (session.perform (.receive events)).2
      { relay with pump := some (pump.pushAll events) } (pump.pushAll events) := by
  have hproducer : session.producer.receive events =
      .host { relay with pump := relay.pump.map (·.pushAll events) } := by
    rw [producer_of_holds h]
    rfl
  unfold perform
  dsimp only
  rw [hproducer]
  refine ⟨?_, ?_, h.handled, h.rejected, h.implicitReleases⟩
  . apply h.runs.imp
    . rintro ⟨hrelays, hknows⟩
      rw [hrelays.pump]
      exact ⟨⟨rfl, rfl, hrelays.isAttached, hrelays.isStarted, hrelays.isOpen⟩, hknows⟩
    . intro hrests
      rw [hrests.pump]
      exact ⟨rfl, rfl, hrests.isStarted, hrests.guard⟩
  . rw [← h.taken, List.append_assoc]
    rfl

theorem holds_perform (h : Holds given past intakes session relay pump) {op : Op}
    (hop : op.isPush = false) :
    ∃ relay pump, Holds (given ++ op.received) (session.pastAfter past op)
      (intakes ++ session.intakes past op) (session.perform op).2 relay pump := by
  cases op with
  | push => contradiction
  | poll =>
    obtain ⟨pulled, rest, hpull⟩ := holds_pull h
    unfold Op.received
    rw [List.append_nil]
    exact ⟨pulled, rest, holds_takes hpull session.takes_poll⟩
  | drain =>
    obtain ⟨pulled, rest, hpull⟩ := holds_pull h
    unfold Op.received
    rw [List.append_nil]
    exact ⟨pulled, rest, holds_takes hpull session.takes_drain⟩
  | pull =>
    unfold Op.received
    rw [List.append_nil]
    exact holds_pull h
  | start =>
    obtain ⟨running, hstart⟩ := holds_start h
    unfold Op.received Session.intakes
    rw [List.append_nil, List.append_nil]
    exact ⟨running, pump, hstart⟩
  | stop =>
    obtain ⟨stopped, hstop⟩ := holds_stop h
    unfold Op.received Session.intakes
    rw [List.append_nil, List.append_nil]
    exact ⟨stopped, pump, hstop⟩
  | work =>
    unfold Op.received Session.intakes
    rw [List.append_nil, List.append_nil]
    exact ⟨relay, pump, holds_takes h (takes_work (producer_of_holds h))⟩
  | prompt event =>
    unfold Op.received Session.intakes
    rw [List.append_nil, List.append_nil]
    exact ⟨relay, pump, holds_takes h (takes_prompt (producer_of_holds h) event)⟩
  | elapse span =>
    have htakes : session.Takes [] (session.elapse span) := ⟨rfl, rfl, rfl, rfl, rfl, rfl⟩
    unfold Op.received Session.intakes
    rw [List.append_nil, List.append_nil]
    exact ⟨relay, pump, holds_takes h htakes⟩
  | receive events =>
    unfold Session.intakes
    rw [List.append_nil]
    exact ⟨_, _, holds_receive h events⟩

theorem holds_performAll_of_holds (h : Holds given past intakes session relay pump)
    {ops : List Op} (hops : ∀ op ∈ ops, op.isPush = false) :
    ∃ since relay pump, Holds (given ++ ops.flatMap Op.received) since
      (intakes ++ session.intakesAll past ops) (session.performAll ops).2 relay pump := by
  induction ops generalizing session given past intakes relay pump with
  | nil =>
    refine ⟨past, relay, pump, ?_⟩
    unfold intakesAll
    rw [List.flatMap_nil, List.append_nil, List.append_nil]
    exact h
  | cons op ops ih =>
    rw [List.forall_mem_cons] at hops
    obtain ⟨relay, pump, hnext⟩ := holds_perform h hops.1
    obtain ⟨since, relay, pump, hlast⟩ := ih hnext hops.2
    refine ⟨since, relay, pump, ?_⟩
    unfold intakesAll
    rw [List.flatMap_cons, ← List.append_assoc, ← List.append_assoc]
    exact hlast

/--
However a session over the events of the host is started and stopped, and whatever the host has for
it, each of these events is taken once and in order, or still waits. Whenever the session is
started, the relay has the left button held exactly if the guard has the contact of the mouse down,
and the same holds before each event that is taken. So motion with the button held always comes in
as a move of the mouse, a press with the button held causes one release, and what the guard turns
away or lifts first can be told from the events alone.
-/
theorem holds_performAll {settings : Settings} {opener : Device.Opener}
    (hsession : Session.begin settings (.new .host (some pump) opener) = .ok session)
    {ops : List Op} (hops : ∀ op ∈ ops, op.isPush = false) :
    let last := (session.performAll ops).2
    let intakes := session.intakesAll [] ops
    ∃ relay rest, last.producer = .host relay ∧ relay.pump = some rest ∧
      intakes.map Intake.event ++ rest.events = pump.events ++ ops.flatMap Op.received ∧
      (last.isStarted = true → relay.isLeftHeld = last.inbox.guard.isDown ⟨.mouse, 0⟩) ∧
      (∀ intake ∈ intakes, intake.IsHandled) ∧
      last.inbox.tally.rejected = UInt64.ofNat (intakes.countP Intake.isStray) ∧
      last.inbox.tally.implicitReleases = UInt64.ofNat (intakes.countP Intake.isRepeated) := by
  intro last intakes
  obtain ⟨first, hbegin⟩ := holds_begin hsession
  obtain ⟨since, relay, rest, hlast⟩ := holds_performAll_of_holds hbegin hops
  have hpump : relay.pump = some rest :=
    hlast.runs.elim (fun hruns => hruns.1.pump) Rests.pump
  refine ⟨relay, rest, producer_of_holds hlast, hpump, hlast.taken, ?_, hlast.handled,
    hlast.rejected, hlast.implicitReleases⟩
  intro hstarted
  rcases hlast.runs with ⟨-, hknows⟩ | hrests
  . rw [hknows.isDown]
    exact hknows.isLeftHeld
  . rw [hrests.isStarted] at hstarted
    contradiction

/--
The button is pressed twice and released twice, next to a finger that moves without being down. The
session stops while the button is held, and the button is released after the next start.
-/
theorem holds_performAll_restarted :
    let settings : Settings := { Settings.standard with producer := .host }
    let button (isPressed : Bool) : Host.Event := .button isPressed .left 0 0 0
    let events : List Host.Event :=
      [button true, .motion 0 0 1, button true, .finger .move ⟨3, 0, 0, 1, 2⟩, button false,
        button false, button true]
    let ops : List Op :=
      [.start, .receive events, .poll, .stop, .start, .receive [.motion 0 0 3, button false],
        .drain]
    ∃ session relay,
      Session.begin settings (.new .host (some ⟨[], 0⟩) .nothing) = .ok session ∧
      (session.performAll ops).2.producer = .host relay ∧
      relay.isLeftHeld = (session.performAll ops).2.inbox.guard.isDown ⟨.mouse, 0⟩ ∧
      (session.performAll ops).2.inbox.tally.rejected = 3 ∧
      (session.performAll ops).2.inbox.tally.implicitReleases = 1 := by
  intro settings button events ops
  have hbegun : ∃ session,
      Session.begin settings (.new .host (some ⟨[], 0⟩) .nothing) = .ok session := ⟨_, rfl⟩
  obtain ⟨session, hsession⟩ := hbegun
  have hops : ∀ op ∈ ops, op.isPush = false := by decide
  obtain ⟨relay, -, hproducer, -, -, hagrees, -, hrejected, himplicit⟩ :=
    holds_performAll hsession hops
  have hcounts : (session.performAll ops).2.isStarted = true ∧
      (session.intakesAll [] ops).countP Intake.isStray = 3 ∧
      (session.intakesAll [] ops).countP Intake.isRepeated = 1 := by
    obtain rfl := Except.ok.inj hsession
    decide
  obtain ⟨hstarted, hstray, hrepeated⟩ := hcounts
  rw [hstray] at hrejected
  rw [hrepeated] at himplicit
  exact ⟨session, relay, hsession, hproducer, hagrees hstarted, hrejected, himplicit⟩

end TouchPanel.Session
