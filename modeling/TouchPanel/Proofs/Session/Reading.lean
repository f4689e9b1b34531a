import TouchPanel.Proofs.Producer.Reading
import TouchPanel.Proofs.Session.Ledger

/-!
This module contains the proof that a panel read live delivers what its recording holds: apart from
the times, the samples that reach the inbox are those of the dump, in whatever parts the records are
fetched (`Session.delivers_performAll`).

The guard lets all of them pass as they are, since the samples of a recording are whole strokes.
-/

namespace TouchPanel.Session

open Kernel (FetchFault Layout)
open Stroke (ofKey)

def Op.watches : Op → Bool
  | .work | .poll | .drain | .pull | .elapse _ => true
  | _ => false

theorem Op.watches_of_mem_attend (count : Nat) : ∀ op ∈ attend count, op.watches := by
  induction count with
  | zero => exact nofun
  | succ count ih =>
    unfold attend
    rw [List.forall_mem_cons, List.forall_mem_cons]
    exact ⟨rfl, rfl, ih⟩

structure Reads (session : Session) (feed : Kernel.Feed) (capabilities : Device.Capabilities) :
    Prop where
  producer : ∃ panel, session.producer = .panel panel ∧
    panel.worker = some (.new feed capabilities none) ∧ panel.status = .running
  isOpen : session.inbox.isOpen = true
  guard : session.inbox.guard = .empty

/--
A session that has delivered some samples of a feed and has some transitions ahead, with the events
that were taken from it since it began to read.
-/
structure Hears (calibration : Calibration) (fault : FetchFault) (origin : Session)
    (taken : List Event) (session : Session) (delivered : List Sample) (ahead : List Transition)
    (left : Nat) : Prop where
  producer : ∃ panel reader, session.producer = .panel panel ∧ panel.worker = some reader ∧
    reader.Reads calibration fault ahead left panel.status
  isOpen : session.inbox.isOpen = true
  stream : taken ++ session.pending = origin.pending ++ delivered.map .pointer
  tracks : session.inbox.guard.Tracks delivered
  closed : ∀ key, Stroke.Closed (ofKey key (delivered ++ ahead.map calibration.mark))
  rejected : session.inbox.tally.rejected = origin.inbox.tally.rejected
  implicitReleases :
    session.inbox.tally.implicitReleases = origin.inbox.tally.implicitReleases

variable {calibration : Calibration} {fault : FetchFault} {origin session : Session}
  {taken : List Event} {delivered : List Sample} {ahead : List Transition} {left : Nat}

theorem pull_of_panel {panel : Panel} (h : session.producer = .panel panel) :
    session.pull = session := by
  unfold pull
  split
  . unfold Producer.pull
    rw [h]
    dsimp only
    rw [← h]
  . rfl

theorem takes_of_watches {panel : Panel} (hproducer : session.producer = .panel panel) {op : Op}
    (hwatches : op.watches) (hwork : op ≠ .work) :
    session.Takes (session.perform op).1 (session.perform op).2 := by
  have hpull := pull_of_panel hproducer
  cases op with
  | work => contradiction
  | poll =>
    have htakes := takes_poll session
    rw [hpull] at htakes
    exact htakes
  | drain =>
    have htakes := takes_drain session
    rw [hpull] at htakes
    exact htakes
  | pull =>
    unfold perform
    dsimp only
    rw [hpull]
    exact ⟨rfl, rfl, rfl, rfl, rfl, rfl⟩
  | elapse span => exact ⟨rfl, rfl, rfl, rfl, rfl, rfl⟩
  | start => contradiction
  | stop => contradiction
  | push => contradiction
  | receive => contradiction
  | prompt => contradiction

theorem hears_takes (h : Hears calibration fault origin taken session delivered ahead left)
    {more : List Event} {next : Session} (htakes : session.Takes more next) :
    Hears calibration fault origin (taken ++ more) next delivered ahead left := by
  constructor
  . rw [htakes.producer]
    exact h.producer
  . rw [htakes.isOpen]
    exact h.isOpen
  . rw [List.append_assoc, htakes.pending]
    exact h.stream
  . rw [htakes.guard]
    exact h.tracks
  . exact h.closed
  . rw [htakes.tally]
    exact h.rejected
  . rw [htakes.tally]
    exact h.implicitReleases

theorem judge_of_hears {transition : Transition} {rest : List Transition}
    (h : Hears calibration fault origin taken session delivered (transition :: rest) left)
    (now : UInt64) :
    (session.inbox.guard.judge (calibration.sample transition now)).2 =
      .accepted (calibration.sample transition now) := by
  -- The sample and its mark differ in the time only.
  have hclosed := h.closed (calibration.mark transition).key
  rw [List.map_cons, Stroke.ofKey_append, Stroke.ofKey_cons] at hclosed
  apply Guard.judge_of_closed h.tracks
  rw [Stroke.ofKey_append, Stroke.ofKey_cons]
  exact hclosed

theorem hears_deliver {transition : Transition} {rest : List Transition}
    (h : Hears calibration fault origin taken session delivered (transition :: rest) left)
    {now : UInt64}
    (hdone : (session.inbox.push (.pointer (calibration.sample transition now))).2 = .done)
    {panel : Panel} {reader : Reader} {left' : Nat} (hworker : panel.worker = some reader)
    (hreads : reader.Reads calibration fault rest left' panel.status) :
    Hears calibration fault origin taken
      { session with
        producer := .panel panel
        inbox := (session.inbox.push (.pointer (calibration.sample transition now))).1 }
      (delivered ++ [calibration.sample transition now]) rest left' := by
  have haccepted := judge_of_hears h now
  obtain ⟨hrejected, himplicit⟩ := Inbox.guarded_push_of_accepted hdone haccepted
  have hgrows := Inbox.grows_push_of_done hdone
  rw [Inbox.arrivals_of_accepted haccepted] at hgrows
  constructor
  . exact ⟨panel, reader, rfl, hworker, hreads⟩
  . rw [hgrows.isOpen]
    exact h.isOpen
  . have hstream := h.stream
    unfold pending at hstream ⊢
    rw [List.map_append, ← List.append_assoc (origin.backlog ++ origin.inbox.queue), ← hstream,
      hgrows.queue]
    simp only [List.append_assoc]
    rfl
  . exact hgrows.tracks delivered h.tracks
  . -- The sample and its mark differ in the time only.
    intro key
    have hclosed := h.closed key
    rw [List.map_cons, List.append_cons, Stroke.ofKey_append, Stroke.ofKey_append,
      Stroke.ofKey_singleton] at hclosed
    rw [Stroke.ofKey_append, Stroke.ofKey_append, Stroke.ofKey_singleton]
    exact hclosed
  . exact hrejected.trans h.rejected
  . exact himplicit.trans h.implicitReleases

theorem work_of_panel {panel : Panel} {reader : Reader}
    (hproducer : session.producer = .panel panel) (hworker : panel.worker = some reader) :
    session.work =
      { session with
        producer := .panel { panel with
          worker := some (reader.step session.now session.inbox).1
          status := (reader.step session.now session.inbox).2.2.getD panel.status }
        inbox := (reader.step session.now session.inbox).2.1 } := by
  unfold work Producer.work
  rw [hproducer]
  unfold Panel.work
  dsimp only
  rw [hworker]

theorem hears_work (h : Hears calibration fault origin taken session delivered ahead left)
    (hstill : session.Permits .work) :
    ∃ heard rest left', left' ≤ left - 1 ∧
      heard.map Sample.untimed ++ rest.map calibration.mark = ahead.map calibration.mark ∧
      Hears calibration fault origin taken session.work (delivered ++ heard) rest left' := by
  obtain ⟨panel, reader, hproducer, hworker, hreads⟩ := h.producer
  unfold Permits at hstill
  rw [work_of_panel hproducer hworker] at hstill ⊢
  cases hended : reader.hasEnded with
  | true =>
    obtain rfl := Reader.left_of_hasEnded hreads hended
    refine ⟨[], ahead, 0, Nat.zero_le _, rfl, ?_⟩
    rw [Reader.step_of_hasEnded hended, List.append_nil]
    exact { h with producer := ⟨_, reader, rfl, rfl, hreads⟩ }
  | false =>
    obtain ⟨rest, left', hleft, hnext, hdelivery⟩ :=
      Reader.reads_step hreads hended h.isOpen session.now hstill
    rcases hdelivery with ⟨rfl, hsame⟩ | ⟨transition, rfl, hdone, hpush⟩
    . refine ⟨[], rest, left', Nat.le_sub_one_of_lt hleft, rfl, ?_⟩
      rw [hsame, List.append_nil]
      exact { h with producer := ⟨_, _, rfl, rfl, hnext⟩ }
    . refine ⟨[calibration.sample transition session.now], rest, left',
        Nat.le_sub_one_of_lt hleft, rfl, ?_⟩
      rw [hpush]
      exact hears_deliver h hdone rfl hnext

theorem hears_perform (h : Hears calibration fault origin taken session delivered ahead left)
    {op : Op} (hwatches : op.watches) (hstill : session.Permits op) :
    ∃ heard rest left', left' ≤ left - [op].count .work ∧
      heard.map Sample.untimed ++ rest.map calibration.mark = ahead.map calibration.mark ∧
      Hears calibration fault origin (taken ++ (session.perform op).1) (session.perform op).2
        (delivered ++ heard) rest left' := by
  obtain ⟨panel, -, hproducer, -⟩ := h.producer
  by_cases hwork : op = .work
  . subst hwork
    unfold perform
    dsimp only
    rw [List.append_nil]
    exact hears_work h hstill
  . have htakes := takes_of_watches hproducer hwatches hwork
    refine ⟨[], ahead, left, ?_, rfl, ?_⟩
    . rw [List.count_singleton, beq_eq_false_iff_ne.2 hwork]
      exact Nat.le_refl _
    . rw [List.append_nil]
      exact hears_takes h htakes

theorem hears_performAll (h : Hears calibration fault origin taken session delivered ahead left)
    {ops : List Op} (hwatches : ∀ op ∈ ops, op.watches) (hpermits : session.PermitsAll ops) :
    ∃ heard rest left', left' ≤ left - ops.count .work ∧
      heard.map Sample.untimed ++ rest.map calibration.mark = ahead.map calibration.mark ∧
      Hears calibration fault origin (taken ++ (session.performAll ops).1)
        (session.performAll ops).2 (delivered ++ heard) rest left' := by
  induction ops generalizing session taken delivered ahead left with
  | nil =>
    refine ⟨[], ahead, left, Nat.le_refl _, rfl, ?_⟩
    unfold performAll
    rw [List.append_nil, List.append_nil]
    exact h
  | cons op ops ih =>
    obtain ⟨hop, hops⟩ := List.forall_mem_cons.1 hwatches
    obtain ⟨hfirst, hlater⟩ := hpermits
    obtain ⟨heard, between, left₁, hleft₁, hmarks, hnext⟩ := hears_perform h hop hfirst
    obtain ⟨heard', rest, left₂, hleft₂, hmarks', hlast⟩ := ih hnext hops hlater
    refine ⟨heard ++ heard', rest, left₂, ?_, ?_, ?_⟩
    . rw [List.count_cons]
      rw [List.count_cons, List.count_nil] at hleft₁
      omega
    . rw [List.map_append, List.append_assoc, hmarks', hmarks]
    . unfold performAll
      rw [← List.append_assoc, ← List.append_assoc]
      exact hlast

theorem hears_of_reads {feed : Kernel.Feed} {capabilities : Device.Capabilities}
    {records : List Kernel.Record} (hprotocol : capabilities.protocol.isMultiTouch)
    (hmulti : capabilities.isMultiTouch = true) (hfeed : feed.Delivers records fault)
    (hreads : session.Reads feed capabilities) :
    Hears (.ofCapabilities capabilities) fault session [] session []
      ((Tracker.new capabilities.protocol capabilities.slotCount).reported records)
      (Reader.span feed records.length) := by
  obtain ⟨panel, hproducer, hworker, hstatus⟩ := hreads.producer
  constructor
  . refine ⟨panel, _, hproducer, hworker, ?_⟩
    rw [hstatus]
    exact Reader.reads_new capabilities hfeed
  . exact hreads.isOpen
  . exact (List.append_nil _).symm
  . rw [hreads.guard]
    exact Guard.tracks_empty
  . intro key
    rw [List.nil_append]
    exact Calibration.closed_reported hprotocol hmulti records key
  . rfl
  . rfl

/--
A panel of several contacts that is read up to a fault with which reading ends delivers the samples
that a dump of the same records holds, all of them in order and each as it is apart from its time.
The guard turns none of them away and lifts no contact by itself. The status says whether the device
is gone.
-/
theorem delivers_performAll {layout : Layout} {bytes : List UInt8}
    {capabilities : Device.Capabilities} {feed : Kernel.Feed}
    (hprotocol : capabilities.protocol.isMultiTouch) (hmulti : capabilities.isMultiTouch = true)
    (hfeed : feed.Delivers (layout.decodeAll bytes) fault)
    (hreads : session.Reads feed capabilities) {ops : List Op}
    (hwatches : ∀ op ∈ ops, op.watches) (hpermits : session.PermitsAll ops)
    (hspan : Reader.span feed (layout.decodeAll bytes).length ≤ ops.count .work) :
    let taken := (session.performAll ops).1
    let last := (session.performAll ops).2
    (∃ samples : List Sample,
      taken ++ last.pending = session.pending ++ samples.map .pointer ∧
      samples.map Sample.untimed =
        (Trace.samplesOfDump layout capabilities bytes).map Sample.untimed) ∧
    last.inbox.tally.rejected = session.inbox.tally.rejected ∧
    last.inbox.tally.implicitReleases = session.inbox.tally.implicitReleases ∧
    last.producer.status =
      if fault = .numbered 19 ∨ fault = .numbered 6 ∨ fault = .numbered 5 then .disconnected
      else .failed := by
  intro taken last
  obtain ⟨samples, rest, left, hleft, hmarks, hlast⟩ :=
    hears_performAll (hears_of_reads hprotocol hmulti hfeed hreads) hwatches hpermits
  obtain ⟨panel, reader, hproducer, -, hreader⟩ := hlast.producer
  obtain rfl : left = 0 := by omega
  obtain ⟨-, rfl, hstatus⟩ := Reader.reads_of_left_eq_zero hreader
  rw [List.map_nil, List.append_nil] at hmarks
  refine ⟨⟨samples, hlast.stream, ?_⟩, hlast.rejected, hlast.implicitReleases, ?_⟩
  . unfold Trace.samplesOfDump
    rw [Trace.map_untimed_samplesOfRecords, hmarks]
  . rw [← FetchFault.ending_eq, ← hstatus]
    exact congrArg Producer.status hproducer

/--
A contact goes down and is still down when the device goes away. Its two records come in separate
fetches, among others that bring nothing.
-/
theorem delivers_performAll_disconnected :
    let capabilities := Device.Capabilities.recordedPanel 100 100 2
    let down : Kernel.Record := ⟨1000000, Kernel.EventType.absolute, Kernel.Axis.trackingId, 7⟩
    let sync : Kernel.Record := .sync 1000001
    let bytes := Layout.compact.encode down ++ Layout.compact.encode sync
    let feed : Kernel.Feed :=
      ⟨[.ok [down], .error .wouldBlock, .ok [], .error (.numbered 4), .ok [sync]], .numbered 19⟩
    let panel : Panel :=
      { Panel.new .nothing with worker := some (.new feed capabilities none), status := .running }
    let session : Session := ⟨.standard, .panel panel, .new, [], true, 3⟩
    let taken := (session.performAll (Op.attend 69)).1
    let last := (session.performAll (Op.attend 69)).2
    (Trace.samplesOfDump .compact capabilities bytes).map Sample.phase = [.down, .up] ∧
    (∃ samples : List Sample, taken ++ last.pending = samples.map .pointer ∧
      samples.map Sample.untimed =
        (Trace.samplesOfDump .compact capabilities bytes).map Sample.untimed) ∧
    last.producer.status = .disconnected := by
  intro capabilities down sync bytes feed panel session taken last
  have hrecords : Layout.compact.decodeAll bytes = [down, sync] := by
    rw [Layout.decodeAll_of_decode? (by decide +kernel : _ = some down),
      Layout.decodeAll_of_decode? (by decide +kernel : _ = some sync),
      Layout.decodeAll_of_decode?_eq_none (by decide +kernel)]
  have hfeed : feed.Delivers (Layout.compact.decodeAll bytes) (.numbered 19) := by
    rw [hrecords]
    exact .batch [down] (.passing .wouldBlock rfl (.batch [] (.passing (.numbered 4) rfl
      (.batch [sync] (.final rfl)))))
  have hmulti : capabilities.isMultiTouch = true := by decide
  have hreads : session.Reads feed capabilities := ⟨⟨panel, rfl, rfl, rfl⟩, rfl, rfl⟩
  have hspan : Reader.span feed (Layout.compact.decodeAll bytes).length ≤
      (Op.attend 69).count .work := by
    rw [hrecords, Op.count_attend]
    exact Nat.le_refl _
  obtain ⟨hsamples, -, -, hstatus⟩ := delivers_performAll rfl hmulti hfeed hreads
    (Op.watches_of_mem_attend 69) (permitsAll_attend rfl 69) hspan
  refine ⟨?_, hsamples, hstatus⟩
  unfold Trace.samplesOfDump
  rw [hrecords]
  decide

end TouchPanel.Session
