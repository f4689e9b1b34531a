import TouchPanel.Proofs.Producer.Mirroring
import TouchPanel.Proofs.Session.Reading

/-!
This module contains what a session hands out whose panel drives the mouse. As long as it runs, each
sample of the primary contact comes with its mouse event right behind it. A stop lifts the contacts
that are down, but no mouse button, and it gives up a mouse event that is still owed: all of the
mouse events have come out, and the left button is released, only if the primary contact is up at
the stop and nothing is owed (`Session.mirrored_stop_iff`).
-/

namespace TouchPanel

open Stroke (ofKey)

namespace Producer

def owed : Producer → List Event
  | panel p => (p.worker.map Reader.owed).getD []
  | _ => []

def hasEnded : Producer → Bool
  | panel p => p.worker.any Reader.hasEnded
  | _ => false

theorem owed_of_worker {p : Panel} {reader : Reader} (hworker : p.worker = some reader) :
    (panel p).owed = reader.owed := by
  unfold owed
  dsimp only
  rw [hworker]
  rfl

theorem samples_owed (producer : Producer) : Event.samples producer.owed = [] := by
  unfold owed
  cases producer with
  | panel p =>
    dsimp only
    cases p.worker with
    | none => rfl
    | some reader =>
      rw [Option.map_some, Option.getD_some]
      unfold Reader.owed
      cases reader.mouseEvent <;> rfl
  | host => rfl
  | synthetic => rfl

end Producer

namespace Session

/--
A running session whose panel drives the mouse, with the events that were taken from it and the
samples that its worker has delivered. Together with what is on its way and what is owed, the
events are the samples and their mouse events.
-/
structure Mirrors (surface : Reference) (taken : List Event) (session : Session)
    (delivered : List Sample) : Prop where
  producer : ∃ panel reader, session.producer = .panel panel ∧ panel.worker = some reader ∧
    reader.Drives surface delivered
  isOpen : session.inbox.isOpen = true
  isStarted : session.isStarted = true
  stream : taken ++ session.pending ++ session.producer.waiting ++ session.producer.owed =
    Event.mirrored surface delivered
  tracks : session.inbox.guard.Tracks delivered

variable {surface : Reference} {session : Session} {taken : List Event} {delivered : List Sample}

theorem mirrors_takes (h : Mirrors surface taken session delivered) {more : List Event}
    {next : Session} (htakes : session.Takes more next) :
    Mirrors surface (taken ++ more) next delivered := by
  constructor
  . rw [htakes.producer]
    exact h.producer
  . rw [htakes.isOpen]
    exact h.isOpen
  . rw [htakes.isStarted]
    exact h.isStarted
  . rw [htakes.producer, List.append_assoc taken, htakes.pending]
    exact h.stream
  . rw [htakes.guard]
    exact h.tracks

theorem mirrors_work (h : Mirrors surface taken session delivered) :
    ∃ events, Mirrors surface taken session.work (delivered ++ Event.samples events) := by
  obtain ⟨panel, reader, hproducer, hworker, hdrives⟩ := h.producer
  obtain ⟨events, hnext⟩ := Reader.mirrors_step hdrives h.isOpen h.tracks session.now
  have howed : session.producer.owed = reader.owed := by
    rw [hproducer]
    exact Producer.owed_of_worker hworker
  have hwaiting : session.producer.waiting = reader.waiting := by
    rw [hproducer]
    exact Panel.waiting_of_worker hworker
  rw [work_of_panel hproducer hworker]
  refine ⟨events, ⟨_, _, rfl, rfl, hnext.drives⟩, ?_, h.isStarted, ?_, ?_⟩
  . exact hnext.flows.isOpen.trans h.isOpen
  . -- What was delivered went behind what waited, and what is owed now behind that.
    change taken ++ (session.backlog ++ (reader.step session.now session.inbox).2.1.queue) ++
      (reader.step session.now session.inbox).1.waiting ++
        (reader.step session.now session.inbox).1.owed = _
    calc
      _ = taken ++ session.backlog ++ ((reader.step session.now session.inbox).2.1.queue ++
            (reader.step session.now session.inbox).1.waiting) ++
              (reader.step session.now session.inbox).1.owed := by simp only [List.append_assoc]
      _ = taken ++ session.pending ++ reader.waiting ++
            (events ++ (reader.step session.now session.inbox).1.owed) := by
        rw [hnext.flows.queue]
        unfold pending
        simp only [List.append_assoc]
      _ = Event.mirrored surface (delivered ++ Event.samples events) := by
        have hstream := h.stream
        rw [hwaiting, howed] at hstream
        rw [hnext.mirrored, ← List.append_assoc, hstream, Event.mirrored_append]
  . exact hnext.flows.tracks delivered h.tracks

theorem mirrors_perform (h : Mirrors surface taken session delivered) {op : Op}
    (hwatches : op.watches) :
    ∃ heard, Mirrors surface (taken ++ (session.perform op).1) (session.perform op).2
      (delivered ++ heard) := by
  obtain ⟨panel, -, hproducer, -⟩ := h.producer
  by_cases hwork : op = .work
  . subst hwork
    obtain ⟨events, hnext⟩ := mirrors_work h
    refine ⟨Event.samples events, ?_⟩
    unfold perform
    dsimp only
    rw [List.append_nil]
    exact hnext
  . refine ⟨[], ?_⟩
    rw [List.append_nil]
    exact mirrors_takes h (takes_of_watches hproducer hwatches hwork)

theorem mirrors_performAll (h : Mirrors surface taken session delivered) {ops : List Op}
    (hwatches : ∀ op ∈ ops, op.watches) :
    ∃ heard, Mirrors surface (taken ++ (session.performAll ops).1) (session.performAll ops).2
      (delivered ++ heard) := by
  induction ops generalizing session taken delivered with
  | nil =>
    refine ⟨[], ?_⟩
    unfold performAll
    rw [List.append_nil, List.append_nil]
    exact h
  | cons op ops ih =>
    obtain ⟨hop, hops⟩ := List.forall_mem_cons.1 hwatches
    obtain ⟨heard, hnext⟩ := mirrors_perform h hop
    obtain ⟨heard', hlast⟩ := ih hnext hops
    refine ⟨heard ++ heard', ?_⟩
    unfold performAll
    rw [← List.append_assoc, ← List.append_assoc]
    exact hlast

theorem mirrors_start {settings : Settings} {pump : Option Host.Pump} {opener : Device.Opener}
    (hsession : Session.begin settings (.new .panel pump opener) = .ok session)
    (hmouse : settings.drivesMouse = true) {capabilities : Device.Capabilities}
    (hdevice : session.producer.offer.device = some capabilities)
    (hprotocol : capabilities.protocol.isMultiTouch) :
    Mirrors settings.reference [] session.start.1 [] := by
  obtain ⟨prepared, hprepare, rfl⟩ := begin_eq_ok hsession
  obtain ⟨panel, hpanel, rfl⟩ := exists_of_map_eq_ok hprepare
  obtain ⟨path, device, known, -, hknown, rfl⟩ := Panel.prepare_eq_ok hpanel
  obtain rfl := Option.some.inj hdevice
  have hmulti := Device.Survey.isMultiTouch_of_capabilities hknown
  rw [hprotocol] at hmulti
  have hdrives := Reader.drives_new hprotocol hmulti device.feed settings.reference
  constructor
  . rw [hmouse]
    exact ⟨_, _, rfl, rfl, hdrives⟩
  . rfl
  . rfl
  . rfl
  . exact Guard.tracks_empty

theorem drain_stop (hstarted : session.isStarted = true)
    (hwaiting : session.producer.waiting = []) :
    session.stop.drain.1 =
      session.pending ++ (session.inbox.guard.release session.now).map .pointer := by
  obtain ⟨hbacklog, hqueue, -⟩ := stop_of_isStarted hstarted hwaiting
  have hstopped : session.stop.isStarted = false := by
    unfold stop
    rw [if_pos hstarted]
  unfold drain pull
  rw [hstopped, if_neg Bool.false_ne_true]
  unfold Inbox.takeAll
  dsimp only
  rw [hbacklog, hqueue, List.append_nil]

theorem samples_of_mirrors (h : Mirrors surface taken session delivered)
    (hwaiting : session.producer.waiting = []) :
    Event.samples (taken ++ session.pending) = delivered := by
  have hsamples := congrArg Event.samples h.stream
  rw [hwaiting, List.append_nil, Event.samples_append, Producer.samples_owed, List.append_nil,
    Event.samples_mirrored] at hsamples
  exact hsamples

theorem closed_of_hasEnded (h : Mirrors surface taken session delivered)
    (hended : session.producer.hasEnded = true) :
    session.producer.owed = [] ∧ ∀ key, Stroke.Closed (ofKey key delivered) := by
  obtain ⟨panel, reader, hproducer, hworker, hdrives⟩ := h.producer
  rw [hproducer] at hended ⊢
  unfold Producer.hasEnded at hended
  dsimp only at hended
  rw [hworker] at hended
  obtain ⟨hleaving, htransitions, hmouse⟩ := hdrives.ended hended
  constructor
  . rw [Producer.owed_of_worker hworker]
    unfold Reader.owed
    rw [hmouse]
    rfl
  . intro key
    have hclosed := hdrives.closed [] key
    unfold Reader.ahead at hclosed
    rw [hleaving, if_pos rfl, htransitions, List.map_nil, List.append_nil] at hclosed
    exact hclosed

/--
A panel of several contacts drives the mouse, however it is watched, until it is stopped while
nothing waits for room. Up to then the events are the samples, each of the primary contact with its
mouse event right behind it, and the mouse event of the last sample may still be owed. The stop
lifts the contacts that are down and does nothing else. So the contacts come out as whole strokes,
but the mouse events are those of the samples only if nothing is owed and the primary contact is up,
and the left button is released only if it is not held already. Both are so if the worker has come
to its end by itself.
-/
theorem mirrored_stop_iff {settings : Settings} {pump : Option Host.Pump} {opener : Device.Opener}
    (hsession : Session.begin settings (.new .panel pump opener) = .ok session)
    (hmouse : settings.drivesMouse = true) {capabilities : Device.Capabilities}
    (hdevice : session.producer.offer.device = some capabilities)
    (hprotocol : capabilities.protocol.isMultiTouch) {ops : List Op}
    (hwatches : ∀ op ∈ ops, op.watches) :
    let taken := (session.start.1.performAll ops).1
    let last := (session.start.1.performAll ops).2
    let before := taken ++ last.pending
    let owed := last.producer.owed
    let delivered := taken ++ last.stop.drain.1
    last.producer.waiting = [] →
      before ++ owed = Event.mirrored settings.reference (Event.samples before) ∧
      delivered = before ++ (last.inbox.guard.release last.now).map .pointer ∧
      (∀ key, Stroke.Closed (ofKey key (Event.samples delivered))) ∧
      (delivered = Event.mirrored settings.reference (Event.samples delivered) ↔
        owed = [] ∧ ¬ Stroke.IsOpen (ofKey .primary (Event.samples before))) ∧
      (Stroke.Closed (Event.leftPhases delivered) ↔
        ¬ Stroke.IsOpen (Event.leftPhases before)) ∧
      (last.producer.hasEnded = true →
        delivered = Event.mirrored settings.reference (Event.samples delivered) ∧
          Stroke.Closed (Event.leftPhases delivered)) := by
  intro taken last before owed delivered hwaiting
  obtain ⟨heard, h⟩ := mirrors_performAll (mirrors_start hsession hmouse hdevice hprotocol) hwatches
  change Mirrors settings.reference taken last heard at h
  obtain rfl : Event.samples before = heard := samples_of_mirrors h hwaiting
  have hstream : before ++ owed = Event.mirrored settings.reference (Event.samples before) := by
    have hstream := h.stream
    rw [hwaiting, List.append_nil] at hstream
    exact hstream
  have hdelivered : delivered = before ++ (last.inbox.guard.release last.now).map .pointer := by
    rw [List.append_assoc, ← drain_stop h.isStarted hwaiting]
  have hsamples : Event.samples delivered =
      Event.samples before ++ last.inbox.guard.release last.now := by
    rw [hdelivered, Event.samples_append, Event.samples_map_pointer]
  have hmirrored : delivered = Event.mirrored settings.reference (Event.samples delivered) ↔
      owed = [] ∧ ¬ Stroke.IsOpen (ofKey .primary (Event.samples before)) := by
    rw [hsamples, Event.mirrored_append, ← hstream, hdelivered, List.append_assoc before owed,
      List.append_right_inj, Event.map_pointer_eq_append_mirrored_iff,
      h.tracks.ofKey_release_eq_nil_iff]
  have hleft : Event.leftPhases delivered = Event.leftPhases before := by
    rw [hdelivered, Event.leftPhases_append, Event.leftPhases_map_pointer, List.append_nil]
  have hphases : Event.leftPhases before ++ Event.leftPhases owed =
      ofKey .primary (Event.samples before) := by
    rw [← Event.leftPhases_append, hstream, Event.leftPhases_mirrored]
  have hreleased : Stroke.Closed (Event.leftPhases delivered) ↔
      ¬ Stroke.IsOpen (Event.leftPhases before) := by
    rw [hleft]
    apply Stroke.closed_iff_not_isOpen
    apply Stroke.follows_of_append
    rw [hphases]
    exact h.tracks.follows .primary
  refine ⟨hstream, hdelivered, ?_, hmirrored, hreleased, ?_⟩
  . intro key
    rw [hsamples]
    exact (Guard.tracks_release h.tracks last.now).run key
  . intro hended
    obtain ⟨hnone, hclosed⟩ := closed_of_hasEnded h hended
    have hup : ¬ Stroke.IsOpen (ofKey .primary (Event.samples before)) :=
      (Stroke.closed_iff_not_isOpen (h.tracks.follows .primary)).1 (hclosed .primary)
    refine ⟨hmirrored.2 ⟨hnone, hup⟩, ?_⟩
    have hsame : Event.leftPhases before = ofKey .primary (Event.samples before) := by
      rw [← hphases, show owed = [] from hnone]
      exact (List.append_nil _).symm
    rw [hreleased, hsame]
    exact hup

def touched : Device :=
  { survey :=
      { name := none
        types := ⟨8⟩
        axes := 0x60800000000000
        hasKey := fun _ => false
        range? := fun _ => some ⟨0, 100⟩ }
    feed :=
      ⟨[.ok [⟨0, Kernel.EventType.absolute, Kernel.Axis.trackingId, 7⟩, .sync 1]], .wouldBlock⟩ }

def driving : Settings :=
  { Settings.standard with devicePath := some "panel", drivesMouse := true }

theorem mirrored_stop_iff_touched :
    let ops : List Op := List.replicate 5 .work
    ∃ session,
      Session.begin driving (.new .panel none fun _ => .ok touched) = .ok session ∧
      (∃ capabilities, session.producer.offer.device = some capabilities ∧
        capabilities.protocol.isMultiTouch = true) ∧
      (session.start.1.performAll ops).2.producer.waiting = [] ∧
      ¬ Stroke.Closed (Event.leftPhases ((session.start.1.performAll ops).1 ++
        (session.start.1.performAll ops).2.stop.drain.1)) := by
  intro ops
  have hsession : ∃ session capabilities,
      Session.begin driving (.new .panel none fun _ => .ok touched) = .ok session ∧
      session.producer.offer.device = some capabilities ∧
      capabilities.protocol.isMultiTouch = true := ⟨_, _, rfl, rfl, rfl⟩
  obtain ⟨session, capabilities, hsession, hdevice, hprotocol⟩ := hsession
  have hheld : (session.start.1.performAll ops).2.producer.waiting = [] ∧
      Stroke.IsOpen (Event.leftPhases ((session.start.1.performAll ops).1 ++
        (session.start.1.performAll ops).2.pending)) := by
    obtain rfl := Except.ok.inj hsession
    decide +kernel
  have hwatches : ∀ op ∈ ops, op.watches := by decide
  obtain ⟨-, -, -, -, hreleased, -⟩ :=
    mirrored_stop_iff hsession rfl hdevice hprotocol hwatches hheld.1
  refine ⟨session, hsession, ⟨capabilities, hdevice, hprotocol⟩, hheld.1, ?_⟩
  rw [hreleased]
  exact not_not_intro hheld.2

/--
The contact is lifted by the stop, but the left button that it holds is not.
-/
theorem leftPhases_stop_touched :
    ∃ session,
      Session.begin driving (.new .panel none fun _ => .ok touched) = .ok session ∧
      let last := (session.start.1.performAll (List.replicate 5 .work)).2
      let delivered := last.stop.drain.1
      last.producer.waiting = [] ∧
      ofKey .primary (Event.samples delivered) = [.down, .up] ∧
      Event.leftPhases delivered = [.down] ∧
      delivered ≠ Event.mirrored driving.reference (Event.samples delivered) := by
  have hsession : ∃ session,
      Session.begin driving (.new .panel none fun _ => .ok touched) = .ok session := ⟨_, rfl⟩
  obtain ⟨session, hsession⟩ := hsession
  refine ⟨session, hsession, ?_⟩
  obtain rfl := Except.ok.inj hsession
  intro last delivered
  have hwaiting : last.isStarted = true ∧ last.producer.waiting = [] := by decide +kernel
  have hphases : ofKey .primary (Event.samples delivered) = [.down, .up] ∧
      Event.leftPhases delivered = [.down] := by
    rw [show delivered = _ from drain_stop hwaiting.1 hwaiting.2]
    decide +kernel
  refine ⟨hwaiting.2, hphases.1, hphases.2, ?_⟩
  intro hmirrored
  have hleft := congrArg Event.leftPhases hmirrored
  rw [Event.leftPhases_mirrored, hphases.1, hphases.2] at hleft
  contradiction

end Session

end TouchPanel
