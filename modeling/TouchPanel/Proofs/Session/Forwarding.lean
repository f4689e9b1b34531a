import TouchPanel.Proofs.Producer.Relaying
import TouchPanel.Proofs.Session.Ledger

/-!
This module contains the proof that a session passes on the events of the host
(`Session.forwards_actAll`): however they come and however often the consumer takes what there is,
the host has in the end what a guard lets pass of their translation. The bound of the queue shows
nowhere in it.
-/

namespace TouchPanel

namespace Relay

def translated (relay : Relay) (events : List Host.Event) : List Event :=
  (convertAll relay.reference 0 relay.isLeftHeld events).2

def passed (relay : Relay) (events : List Host.Event) : List Event :=
  (Guard.empty.screenAll (relay.translated events)).2

theorem map_untimed_passed (relay : Relay) (events : List Host.Event) :
    (relay.passed events).map Event.untimed = relay.passed events := by
  have htranslated : (relay.translated events).map Event.untimed = relay.translated events :=
    (congrArg Prod.snd (convertAll_untimed relay.reference 0 relay.isLeftHeld events)).symm
  have hscreened := Guard.empty.screenAll_untimed (relay.translated events)
  rw [htranslated] at hscreened
  exact (congrArg Prod.snd hscreened).symm

theorem map_ofEvent_passed {relay : Relay} {events : List Host.Event}
    (hheld : relay.isLeftHeld = false) (hplain : Host.IsPlain events) :
    ((relay.passed events).map Host.Event.ofEvent).map Host.Event.untimed =
      (events.filter (· ≠ Host.Event.other)).map Host.Event.untimed := by
  have hpassed := map_ofEvent_of_isPlain relay.reference hplain
  rw [Host.Event.map_untimed_ofEvent, map_untimed_passed, ← hpassed, ← hheld]
  rfl

def deliveries (relay : Relay) (now : UInt64) (inbox : Inbox) : List Delivery :=
  match relay.isAttached, relay.pump with
  | true, some pump =>
    (pullListing relay.reference now relay.isLeftHeld inbox pump.events).2
  | _, _ => []

end Relay

namespace Session

open Relay (convertAll)

def deliveries (session : Session) : List Delivery :=
  match session.isStarted, session.producer with
  | true, .host relay => relay.deliveries session.now session.inbox
  | _, _ => []

def Act.relays : Act → Bool
  | .forward | .op (.receive _) | .op (.elapse _) => true
  | _ => false

def Act.received : Act → List Host.Event
  | .op (.receive events) => events
  | _ => []

structure Relays (session : Session) (relay : Relay) (pump : Host.Pump) : Prop where
  producer : session.producer = .host relay
  pump : relay.pump = some pump
  isAttached : relay.isAttached = true
  isStarted : session.isStarted = true
  isOpen : session.inbox.isOpen = true

/--
What holds between any two acts of a session that began with a relay and with some events waiting:
some events were taken from the pump, and what passes of them has been handed on or waits.
-/
structure Forwards (origin : Relay) (first handed : List Event) (taken : List Host.Event)
    (session : Session) (relay : Relay) (pump : Host.Pump) : Prop
    extends Relays session relay pump where
  reference : relay.reference = origin.reference
  isLeftHeld : relay.isLeftHeld = (convertAll origin.reference 0 origin.isLeftHeld taken).1
  guard : session.inbox.guard.untimed = (Guard.empty.screenAll (origin.translated taken)).1
  stream : (handed ++ session.pending).map Event.untimed =
    first.map Event.untimed ++ origin.passed taken

variable {session next : Session} {relay origin : Relay} {pump : Host.Pump}
  {first handed more : List Event} {taken : List Host.Event}

theorem start_eq_ok {producer : Producer} {now : UInt64}
    (hproducer : session.producer = .host relay) (hpump : relay.pump = some pump)
    (h : session.producer.start now = .ok producer) :
    ∃ running : Relay, producer = .host running ∧ running.pump = some pump ∧
      running.isAttached = true ∧ running.isLeftHeld = false := by
  rw [hproducer] at h
  unfold Producer.start Relay.start at h
  dsimp only at h
  split at h
  . contradiction
  . contradiction
  . obtain rfl := Except.ok.inj h
    exact ⟨_, rfl, hpump, rfl, rfl⟩

theorem relays_start (hproducer : session.producer = .host relay) (hpump : relay.pump = some pump)
    (h : session.start = (next, .ok ())) :
    ∃ running, next.Relays running pump ∧ running.isLeftHeld = false ∧
      next.inbox.guard = session.inbox.guard ∧ next.pending = session.pending := by
  unfold start at h
  split at h
  . nomatch congrArg Prod.snd h
  . cases hstart : session.producer.start session.now with
    | error fault =>
      rw [hstart] at h
      nomatch congrArg Prod.snd h
    | ok producer =>
      rw [hstart] at h
      obtain ⟨running, rfl, hpump, hattached, hheld⟩ := start_eq_ok hproducer hpump hstart
      obtain rfl := congrArg Prod.fst h
      exact ⟨running, ⟨rfl, hpump, hattached, rfl, rfl⟩, hheld, rfl, rfl⟩

theorem pull_of_relays (h : session.Relays relay pump) :
    let pulled :=
      Relay.pullAll relay.reference session.now relay.isLeftHeld session.inbox pump.events
    session.pull =
      { session with
        producer := .host
          { relay with
            pump := some { pump with events := pulled.rest }
            isLeftHeld := pulled.isLeftHeld }
        inbox := pulled.inbox } := by
  unfold pull Producer.pull Relay.pull
  rw [h.isStarted, h.producer]
  dsimp only
  rw [h.isAttached, h.pump]
  rfl

theorem deliveries_of_relays (h : session.Relays relay pump) :
    session.deliveries =
      (Relay.pullListing relay.reference session.now relay.isLeftHeld session.inbox
        pump.events).2 := by
  unfold deliveries Relay.deliveries
  rw [h.isStarted, h.producer]
  dsimp only
  rw [h.isAttached, h.pump]

theorem passed_append (h : Forwards origin first handed taken session relay pump) (now : UInt64)
    (more : List Host.Event) :
    let converted := (convertAll relay.reference now relay.isLeftHeld more).2
    (convertAll origin.reference 0 origin.isLeftHeld (taken ++ more)).1 =
        (convertAll relay.reference now relay.isLeftHeld more).1 ∧
      (Guard.empty.screenAll (origin.translated (taken ++ more))).1 =
        (session.inbox.guard.screenAll converted).1.untimed ∧
      origin.passed (taken ++ more) =
        origin.passed taken ++ (session.inbox.guard.screenAll converted).2.map Event.untimed := by
  intro converted
  have hmore : convertAll origin.reference 0
        (convertAll origin.reference 0 origin.isLeftHeld taken).1 more =
      ((convertAll relay.reference now relay.isLeftHeld more).1,
        converted.map Event.untimed) := by
    rw [← h.isLeftHeld, ← h.reference]
    exact Relay.convertAll_untimed ..
  have hscreened := session.inbox.guard.screenAll_untimed converted
  rw [h.guard] at hscreened
  unfold Relay.passed Relay.translated at *
  rw [Relay.convertAll_append, hmore, Guard.screenAll_append, hscreened]
  exact ⟨rfl, rfl, rfl⟩

theorem forwards_pull (h : Forwards origin first handed taken session relay pump) :
    ∃ more pulled rest, more ++ rest.events = pump.events ∧
      Forwards origin first handed (taken ++ more) session.pull pulled rest ∧
      session.pull.backlog = session.backlog ∧
      (rest.events = [] ∨ session.pull.inbox.hasRoom 2 = false) ∧
      ∀ delivery ∈ session.deliveries, delivery = .done := by
  obtain ⟨more, hmore, hconveys, hdone⟩ :=
    @Relay.conveys_pullAll relay.reference session.now relay.isLeftHeld _ h.isOpen pump.events
  obtain ⟨hheld, hguard, hpassed⟩ := passed_append h session.now more
  rw [pull_of_relays h.toRelays, deliveries_of_relays h.toRelays, hdone]
  generalize Relay.pullAll relay.reference session.now relay.isLeftHeld session.inbox pump.events =
    pulled at hmore hconveys
  refine ⟨more, _, { pump with events := pulled.rest }, hmore,
    ⟨⟨rfl, rfl, h.isAttached, h.isStarted, hconveys.isOpen⟩, h.reference, ?_, ?_, ?_⟩, rfl,
    hconveys.ended, ?_⟩
  . rw [hheld]
    exact hconveys.isLeftHeld
  . rw [hguard]
    exact congrArg Guard.untimed hconveys.guard
  . have hstream := h.stream
    unfold pending at hstream ⊢
    dsimp only
    rw [hconveys.queue, hpassed]
    simp only [List.map_append, ← List.append_assoc] at hstream ⊢
    rw [hstream]
  . intro delivery hmem
    exact List.eq_of_mem_replicate hmem

theorem relays_takes (h : session.Relays relay pump) (htakes : session.Takes more next) :
    next.Relays relay pump := by
  refine ⟨?_, h.pump, h.isAttached, ?_, ?_⟩
  . rw [htakes.producer]
    exact h.producer
  . rw [htakes.isStarted]
    exact h.isStarted
  . rw [htakes.isOpen]
    exact h.isOpen

theorem forwards_takes (h : Forwards origin first handed taken session relay pump)
    (htakes : session.Takes more next) :
    Forwards origin first (handed ++ more) taken next relay pump := by
  refine ⟨relays_takes h.toRelays htakes, h.reference, h.isLeftHeld, ?_, ?_⟩
  . rw [htakes.guard]
    exact h.guard
  . rw [List.append_assoc, htakes.pending]
    exact h.stream

theorem forwards_drain (h : Forwards origin first handed taken session relay pump) :
    ∃ more pulled rest, more ++ rest.events = pump.events ∧
      Forwards origin first (handed ++ session.drain.1) (taken ++ more) session.drain.2 pulled
        rest ∧
      session.drain.2.pending = [] ∧
      (rest.events = [] ∨ session.drain.1 ≠ []) ∧
      ∀ delivery ∈ session.deliveries, delivery = .done := by
  obtain ⟨more, pulled, rest, hmore, hpull, hbacklog, hended, hdone⟩ := forwards_pull h
  have hlast := forwards_takes hpull session.takes_drain
  refine ⟨more, pulled, rest, hmore, hlast, rfl, ?_, hdone⟩
  apply hended.imp_right
  intro hfull hnone
  have hqueue : session.pull.inbox.queue = [] := (List.append_eq_nil_iff.1 hnone).2
  unfold Inbox.hasRoom at hfull
  rw [hqueue] at hfull
  contradiction

theorem forwards_act (h : Forwards origin first handed taken session relay pump) {act : Act}
    (hact : act.relays) :
    ∃ events more pulled rest,
      (session.act act).1 = events.map (.host ∘ Host.Event.ofEvent) ∧
      more ++ rest.events = pump.events ++ act.received ∧
      Forwards origin first (handed ++ events) (taken ++ more) (session.act act).2 pulled rest := by
  cases act with
  | forward =>
    obtain ⟨more, pulled, rest, hmore, hlast, -⟩ := forwards_drain h
    refine ⟨_, more, pulled, rest, ?_, ?_, hlast⟩
    . exact List.map_map
    . rw [hmore]
      exact (List.append_nil _).symm
  | op op =>
    cases op with
    | receive events =>
      refine ⟨[], [], { relay with pump := some (pump.pushAll events) }, pump.pushAll events, rfl,
        rfl, ?_⟩
      rw [List.append_nil, List.append_nil]
      refine ⟨⟨?_, rfl, h.isAttached, h.isStarted, h.isOpen⟩, h.reference, h.isLeftHeld, h.guard,
        h.stream⟩
      unfold act perform Producer.receive
      dsimp only
      rw [h.producer]
      dsimp only
      rw [h.pump]
      rfl
    | elapse span =>
      refine ⟨[], [], relay, pump, rfl, (List.append_nil _).symm, ?_⟩
      rw [List.append_nil, List.append_nil]
      exact ⟨⟨h.producer, h.pump, h.isAttached, h.isStarted, h.isOpen⟩, h.reference, h.isLeftHeld,
        h.guard, h.stream⟩
    | start | stop | push | poll | drain | pull | work | prompt => contradiction

theorem forwards_actAll_of_forwards (h : Forwards origin first handed taken session relay pump)
    {acts : List Act} (hacts : ∀ act ∈ acts, act.relays) :
    ∃ events more pulled rest,
      (session.actAll acts).1 = events.map (.host ∘ Host.Event.ofEvent) ∧
      more ++ rest.events = pump.events ++ acts.flatMap Act.received ∧
      Forwards origin first (handed ++ events) (taken ++ more) (session.actAll acts).2 pulled
        rest := by
  induction acts generalizing session handed taken relay pump with
  | nil =>
    refine ⟨[], [], relay, pump, rfl, (List.append_nil _).symm, ?_⟩
    rw [List.append_nil, List.append_nil]
    exact h
  | cons act acts ih =>
    rw [List.forall_mem_cons] at hacts
    obtain ⟨events, more, pulled, rest, hevents, hmore, hnext⟩ := forwards_act h hacts.1
    obtain ⟨events', more', pulled', rest', hevents', hmore', hlast⟩ := ih hnext hacts.2
    refine ⟨events ++ events', more ++ more', pulled', rest', ?_, ?_, ?_⟩
    . unfold actAll
      dsimp only
      rw [hevents, hevents', List.map_append]
    . rw [List.append_assoc, hmore', ← List.append_assoc, hmore, List.flatMap_cons,
        List.append_assoc]
    . rw [← List.append_assoc, ← List.append_assoc]
      exact hlast

theorem forwards_of_relays (h : session.Relays relay pump) (hguard : session.inbox.guard = .empty) :
    Forwards relay session.pending [] [] session relay pump := by
  refine ⟨h, rfl, rfl, ?_, ?_⟩
  . rw [hguard]
    rfl
  . exact (List.append_nil _).symm

theorem handed_of_forwards (h : Forwards origin first handed taken session relay pump)
    (hpending : session.pending = []) :
    (handed.map Host.Event.ofEvent).map Host.Event.untimed =
      ((first ++ origin.passed taken).map Host.Event.ofEvent).map Host.Event.untimed := by
  have hstream := h.stream
  rw [hpending, List.append_nil] at hstream
  have hall : handed.map Event.untimed = (first ++ origin.passed taken).map Event.untimed := by
    rw [hstream, List.map_append, Relay.map_untimed_passed]
  rw [Host.Event.map_untimed_ofEvent, Host.Event.map_untimed_ofEvent, hall]

theorem eq_nil_of_forwards {last : Relay} {rest : Host.Pump}
    (h : Forwards origin first handed taken session relay pump) (hpending : session.pending = [])
    (hnext : Forwards origin first (handed ++ more) taken next last rest) : more = [] := by
  have hbefore := congrArg List.length h.stream
  have hafter := congrArg List.length hnext.stream
  rw [hpending, ← hafter] at hbefore
  simp only [List.length_map, List.length_append, List.length_nil] at hbefore
  apply List.eq_nil_of_length_eq_zero
  omega

theorem forward_eq_nil_of_length_le (h : Forwards origin first handed taken session relay pump)
    (hpending : session.pending = []) {count : Nat} (hcount : pump.events.length ≤ count) :
    (session.actAll (List.replicate count .forward)).2.forward.1 = [] := by
  induction count generalizing session handed taken relay pump with
  | zero =>
    obtain ⟨more, pulled, rest, hmore, hnext, -⟩ := forwards_drain h
    have hnone : more = [] := by
      rw [Nat.le_zero, List.length_eq_zero_iff] at hcount
      rw [hcount] at hmore
      exact (List.append_eq_nil_iff.1 hmore).1
    rw [hnone, List.append_nil] at hnext
    exact congrArg (List.map Host.Event.ofEvent) (eq_nil_of_forwards h hpending hnext)
  | succ count ih =>
    obtain ⟨more, pulled, rest, hmore, hnext, hlast, hended, -⟩ := forwards_drain h
    apply ih hnext hlast
    rcases hended with hempty | hsome
    . rw [hempty]
      exact Nat.zero_le count
    . have hmoves : more ≠ [] := by
        rintro rfl
        rw [List.append_nil] at hnext
        exact hsome (eq_nil_of_forwards h hpending hnext)
      have hlength := congrArg List.length hmore
      rw [List.length_append] at hlength
      have := List.length_pos_iff.2 hmoves
      omega

/--
The host has events while a consumer hands on to it what there is, in any order. When a call of the
consumer finds nothing, the host has been handed, apart from the times, what waited at first and
what a guard lets pass of the translation of all its events, and none of them is left. Plain events
are handed on as they are, without those that are no input. No delivery ever finds the queue full,
and enough calls of the consumer always come to the end.
-/
theorem forwards_actAll (h : session.Relays relay pump) (hguard : session.inbox.guard = .empty)
    {acts : List Act} (hacts : ∀ act ∈ acts, act.relays) :
    let given := pump.events ++ acts.flatMap Act.received
    let last := (session.actAll acts).2
    ∃ hosted : List Host.Event, (session.actAll acts).1 = hosted.map .host ∧
      (last.forward.1 = [] →
        hosted.map Host.Event.untimed =
            ((session.pending ++ relay.passed given).map Host.Event.ofEvent).map
              Host.Event.untimed ∧
        (∃ left rest, last.forward.2.Relays left rest ∧ rest.events = []) ∧
        (relay.isLeftHeld = false → Host.IsPlain given →
          hosted.map Host.Event.untimed =
            (session.pending.map Host.Event.ofEvent ++
              given.filter (· ≠ Host.Event.other)).map Host.Event.untimed)) ∧
      (∀ before after, acts = before ++ .forward :: after →
        ∀ delivery ∈ (session.actAll before).2.deliveries, delivery = .done) ∧
      ∀ count, given.length < count →
        (last.actAll (List.replicate count .forward)).2.forward.1 = [] := by
  intro given last
  have hstart := forwards_of_relays h hguard
  obtain ⟨events, taken, running, rest, hevents, htaken, hlast⟩ :=
    forwards_actAll_of_forwards hstart hacts
  rw [List.nil_append, List.nil_append] at hlast
  obtain ⟨more, pulled, left, hmore, hdrain, hpending, hended, -⟩ := forwards_drain hlast
  have hgiven : taken ++ more ++ left.events = given := by
    rw [List.append_assoc, hmore, htaken]
  refine ⟨events.map .ofEvent, ?_, ?_, ?_, ?_⟩
  . rw [hevents, List.map_map]
  . intro hnone
    have hdrained : last.drain.1 = [] := List.map_eq_nil_iff.1 hnone
    have hempty : left.events = [] := hended.resolve_right fun hsome => hsome hdrained
    rw [hempty, List.append_nil] at hgiven
    have hhosted := handed_of_forwards hdrain hpending
    rw [hdrained, List.append_nil, hgiven] at hhosted
    refine ⟨hhosted, ⟨pulled, left, hdrain.toRelays, hempty⟩, ?_⟩
    intro hheld hplain
    rw [hhosted, List.map_append, List.map_append, List.map_append,
      Relay.map_ofEvent_passed hheld hplain]
  . rintro before after rfl
    have hbefore : ∀ act ∈ before, act.relays := fun act hact =>
      hacts act (List.mem_append_left _ hact)
    obtain ⟨_, _, _, _, -, -, hreached⟩ := forwards_actAll_of_forwards hstart hbefore
    obtain ⟨_, _, _, -, -, -, -, hdone⟩ := forwards_drain hreached
    exact hdone
  . intro count hcount
    cases count with
    | zero => contradiction
    | succ count =>
      apply forward_eq_nil_of_length_le hdrain hpending
      have hlength := congrArg List.length hgiven
      rw [List.length_append] at hlength
      omega

/--
A finger goes down and lifts. The consumer takes what there is in between, and after it.
-/
theorem forwards_actAll_touched :
    let settings : Settings := { Settings.standard with producer := .host }
    let finger (phase : Phase) (x : Float32) (time : UInt64) : Host.Event :=
      .finger phase ⟨1, x, 0, 1, time⟩
    let acts : List Act :=
      [.op (.receive [finger .down 0 5, .other]), .forward, .op (.elapse 3),
        .op (.receive [finger .up 1 6]), .forward]
    ∃ session started, Session.begin settings (.new .host (some ⟨[], 1⟩) .nothing) = .ok session ∧
      session.start = (started, .ok ()) ∧
      ∃ hosted : List Host.Event, (started.actAll acts).1 = hosted.map .host ∧
        hosted.map Host.Event.untimed = [finger .down 0 0, finger .up 1 0] := by
  intro settings finger acts
  have hstarted : ∃ session started,
      Session.begin settings (.new .host (some ⟨[], 1⟩) .nothing) = .ok session ∧
      session.start = (started, .ok ()) ∧ session.pending = [] ∧
      session.inbox.guard = .empty ∧ (started.actAll acts).2.forward.1 = [] ∧
      ∃ relay, session.producer = .host relay ∧ relay.pump = some ⟨[], 1⟩ :=
    ⟨_, _, rfl, rfl, rfl, rfl, rfl, _, rfl, rfl⟩
  obtain ⟨session, started, hbegin, hstart, hnone, hempty, hlast, relay, hproducer, hpump⟩ :=
    hstarted
  obtain ⟨running, hrelays, hheld, hguard, hpending⟩ := relays_start hproducer hpump hstart
  rw [hempty] at hguard
  rw [hnone] at hpending
  have hacts : ∀ act ∈ acts, act.relays := by decide
  obtain ⟨hosted, hhosted, hend, -, -⟩ := forwards_actAll hrelays hguard hacts
  have hplain : Host.IsPlain [finger .down 0 5, .other, finger .up 1 6] := by
    refine ⟨by decide, ?_, by decide⟩
    intro id
    by_cases hid : 1 = id
    . subst hid
      decide
    . have hnone : Host.phasesOf id [finger .down 0 5, .other, finger .up 1 6] = [] := by
        simp [Host.phasesOf, Host.Event.phaseOf?, finger, hid]
      rw [hnone]
      rfl
  obtain ⟨-, -, htold⟩ := hend hlast
  refine ⟨session, started, hbegin, hstart, hosted, hhosted, ?_⟩
  rw [htold hheld hplain, hpending]
  rfl

end Session

end TouchPanel
