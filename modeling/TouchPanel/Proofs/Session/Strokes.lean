import TouchPanel.Proofs.Session.Run

/-!
This module contains the proof that a session hands out strokes: whatever is done with it, the
samples that were taken from it and those that are still waiting are strokes of every contact, and a
stop closes all that are open (`Session.streams_performAll`).

The stream is spread over what was taken, the backlog and the queue. The guard knows it as a whole
(`Session.Sound`), so an operation that only moves events from one to the other changes nothing.
-/

namespace TouchPanel.Session

open Stroke (ofKey samplesOf)

/--
What holds of a session between any two operations, with the events that were taken from it: the
guard knows the strokes that they and the events that are still waiting make.
-/
structure Sound (taken : List Event) (session : Session) : Prop where
  tracks : session.inbox.guard.Tracks (Event.samples (taken ++ session.pending))
  waiting : session.producer.waiting = []

variable {session : Session} {taken : List Event}

theorem sound_begin {settings : Settings} {kind : ProducerKind} {pump : Option Host.Pump}
    {opener : Device.Opener} (h : Session.begin settings (.new kind pump opener) = .ok session) :
    Sound [] session := by
  obtain ⟨prepared, hprepare, rfl⟩ := begin_eq_ok h
  constructor
  . apply Guard.tracks_empty
  . rw [Producer.waiting_prepare hprepare]
    apply Producer.waiting_new

theorem sound_grows (h : Sound taken session) {inbox : Inbox} {entered : List Event}
    (hgrows : session.inbox.Grows inbox entered) {producer : Producer}
    (hwaiting : producer.waiting = []) : Sound taken { session with producer, inbox } := by
  constructor
  . unfold pending
    rw [hgrows.queue, ← List.append_assoc, ← List.append_assoc, Event.samples_append]
    apply hgrows.tracks
    rw [List.append_assoc]
    exact h.tracks
  . exact hwaiting

theorem sound_producer (h : Sound taken session) {producer : Producer}
    (hwaiting : producer.waiting = []) : Sound taken { session with producer } :=
  ⟨h.tracks, hwaiting⟩

theorem sound_start (h : Sound taken session) : Sound taken session.start.1 := by
  unfold start
  split
  . exact h
  . cases hstart : session.producer.start session.now with
    | ok producer => exact ⟨h.tracks, Producer.waiting_start hstart⟩
    | error => exact ⟨h.tracks, h.waiting⟩

theorem stop_of_isStarted (hstarted : session.isStarted = true)
    (hwaiting : session.producer.waiting = []) :
    session.stop.backlog =
        session.pending ++ (session.inbox.guard.release session.now).map .pointer ∧
      session.stop.inbox.queue = [] ∧
      session.stop.inbox.guard = .empty ∧
      session.stop.producer.waiting = [] := by
  have hclosed : (session.inbox.setOpen false).isOpen = false := rfl
  obtain ⟨hinbox, hrest⟩ := Producer.stop_of_closed hwaiting session.now hclosed
  unfold stop
  rw [if_pos hstarted]
  dsimp only
  rw [hinbox, hrest]
  refine ⟨?_, rfl, rfl, rfl⟩
  unfold pending
  rfl

theorem sound_stop (h : Sound taken session) : Sound taken session.stop := by
  cases hstarted : session.isStarted with
  | false =>
    rw [stop_of_not_isStarted hstarted]
    exact h
  | true =>
    -- The queue moves to the backlog, so only the releases are new in the stream.
    obtain ⟨hbacklog, hqueue, hguard, hwaiting⟩ := stop_of_isStarted hstarted h.waiting
    constructor
    . unfold pending
      rw [hbacklog, hqueue, hguard, List.append_nil, ← List.append_assoc, Event.samples_append,
        Event.samples_map_pointer]
      apply Guard.tracks_release h.tracks
    . exact hwaiting

theorem sound_push (h : Sound taken session) {event : Event}
    (hpermits : session.Permits (.push event)) : Sound taken (session.push event).1 := by
  unfold push
  rcases session.inbox.push_cases event with ⟨-, hpush⟩ | ⟨-, hgrows⟩ | ⟨hopen, hfull, -⟩
  . rw [hpush]
    exact h
  . exact sound_grows h hgrows h.waiting
  . -- An operation that is permitted does not wait.
    rcases hpermits with hclosed | hroom
    . rw [hopen] at hclosed
      contradiction
    . rw [hfull] at hroom
      contradiction

theorem sound_pull (h : Sound taken session) : Sound taken session.pull := by
  unfold pull
  split
  . obtain ⟨entered, hgrows⟩ := session.producer.grows_pull session.now session.inbox
    have hwaiting : (session.producer.pull session.now session.inbox).1.waiting = [] := by
      rw [Producer.waiting_pull]
      exact h.waiting
    exact sound_grows h hgrows hwaiting
  . exact h

theorem sound_work (h : Sound taken session) (hpermits : session.Permits .work) :
    Sound taken session.work := by
  have hpasses := Producer.passes_work h.waiting session.now session.inbox
  have hrest : (session.producer.work session.now session.inbox).1.waiting = [] := hpermits
  rw [hrest] at hpasses
  obtain ⟨entered, hgrows⟩ := Inbox.grows_of_passes hpasses
  exact sound_grows h hgrows hrest

theorem sound_takes (h : Sound taken session) {more : List Event} {next : Session}
    (htakes : session.Takes more next) : Sound (taken ++ more) next := by
  constructor
  . rw [htakes.guard, List.append_assoc, htakes.pending]
    exact h.tracks
  . rw [htakes.producer]
    exact h.waiting

theorem sound_perform (h : Sound taken session) {op : Op} (hpermits : session.Permits op) :
    Sound (taken ++ (session.perform op).1) (session.perform op).2 := by
  cases op with
  | poll => exact sound_takes (sound_pull h) session.takes_poll
  | drain => exact sound_takes (sound_pull h) session.takes_drain
  | start =>
    unfold perform
    rw [List.append_nil]
    exact sound_start h
  | stop =>
    unfold perform
    rw [List.append_nil]
    exact sound_stop h
  | push =>
    unfold perform
    rw [List.append_nil]
    exact sound_push h hpermits
  | pull =>
    unfold perform
    rw [List.append_nil]
    exact sound_pull h
  | work =>
    unfold perform
    rw [List.append_nil]
    exact sound_work h hpermits
  | elapse =>
    unfold perform
    rw [List.append_nil]
    exact ⟨h.tracks, h.waiting⟩
  | receive =>
    unfold perform
    rw [List.append_nil]
    apply sound_producer h
    rw [Producer.waiting_receive]
    exact h.waiting
  | prompt =>
    unfold perform
    rw [List.append_nil]
    apply sound_producer h
    rw [Producer.waiting_prompt]
    exact h.waiting

theorem sound_performAll (h : Sound taken session) {ops : List Op} (hops : session.PermitsAll ops) :
    Sound (taken ++ (session.performAll ops).1) (session.performAll ops).2 := by
  induction ops generalizing session taken with
  | nil =>
    unfold performAll
    rw [List.append_nil]
    exact h
  | cons op ops ih =>
    obtain ⟨hop, hrest⟩ := hops
    unfold performAll
    dsimp only
    rw [← List.append_assoc]
    apply ih (sound_perform h hop) hrest

/--
Whatever happens to a session in which no producer has to wait for room, the samples of each contact
among the events that were taken, the backlog and the queue are strokes. The guard holds exactly the
contacts that are down there, each with its last sample. A stop lifts each of them once, where it
was last seen and in order, and leaves no stroke open.
-/
theorem streams_performAll {settings : Settings} {kind : ProducerKind} {pump : Option Host.Pump}
    {opener : Device.Opener}
    (hsession : Session.begin settings (.new kind pump opener) = .ok session)
    {ops : List Op} (hops : session.PermitsAll ops) :
    let taken := (session.performAll ops).1
    let last := (session.performAll ops).2
    let samples := Event.samples (taken ++ last.backlog ++ last.inbox.queue)
    (∀ key, Stroke.Follows (ofKey key samples)) ∧
      (∀ key, last.inbox.guard.isDown key = true ↔ Stroke.IsOpen (ofKey key samples)) ∧
      (∀ key sample, last.inbox.guard.find? key = some sample →
        (samplesOf key samples).getLast? = some sample) ∧
      (last.isStarted = true →
        last.stop.inbox.guard.samples = [] ∧
        last.stop.inbox.queue = [] ∧
        (∃ releases : List Sample,
          last.stop.backlog = last.backlog ++ last.inbox.queue ++ releases.map .pointer ∧
          Ascending releases ∧
          ∀ key, samplesOf key releases =
            if Stroke.IsOpen (ofKey key samples) then
              ((samplesOf key samples).getLast?.map (·.lifted last.now)).toList
            else
              []) ∧
        ∀ key, Stroke.Closed (ofKey key (Event.samples (taken ++ last.stop.backlog)))) := by
  intro taken last samples
  have h : Sound taken last := sound_performAll (sound_begin hsession) hops
  have htracks : last.inbox.guard.Tracks samples := by
    have htracks := h.tracks
    unfold pending at htracks
    rw [← List.append_assoc] at htracks
    exact htracks
  refine ⟨htracks.follows, htracks.isDown_iff, htracks.last, ?_⟩
  intro hstarted
  obtain ⟨hbacklog, hqueue, hguard, -⟩ := stop_of_isStarted hstarted h.waiting
  refine ⟨?_, hqueue, ⟨last.inbox.guard.release last.now, hbacklog, ?_, ?_⟩, ?_⟩
  . rw [hguard]
    rfl
  . apply Guard.ascending_release
  . intro key
    rw [Guard.samplesOf_release]
    split
    . next hopen =>
      rw [← htracks.isDown_iff] at hopen
      obtain ⟨sample, hfound⟩ := Option.isSome_iff_exists.1 hopen
      rw [htracks.last key sample hfound, hfound]
    . next hclosed =>
      rw [← htracks.isDown_iff] at hclosed
      unfold Guard.isDown at hclosed
      rw [Option.not_isSome_iff_eq_none] at hclosed
      rw [hclosed]
      rfl
  . intro key
    have hclosed := (Guard.tracks_release htracks last.now).run key
    unfold Stroke.Closed
    rw [hbacklog, ← List.append_assoc, Event.samples_append, Event.samples_map_pointer]
    unfold pending
    rw [← List.append_assoc]
    exact hclosed

/--
A contact goes down twice before the session is stopped and started again with unread events.
-/
theorem streams_performAll_restarted :
    let settings : Settings := { Settings.standard with producer := .host }
    let press : Event := .pointer ⟨.down, 1, 0, 0, 1, 3, .touch⟩
    let ops : List Op := [.start, .push press, .push press, .poll, .stop, .start, .push press]
    ∃ session,
      Session.begin settings (.new .host (some ⟨[], 0⟩) .nothing) = .ok session ∧
      session.PermitsAll ops ∧
      ofKey ⟨.touch, 1⟩ (Event.samples ((session.performAll ops).1 ++
        (session.performAll ops).2.backlog ++ (session.performAll ops).2.inbox.queue)) =
          [.down, .up, .down, .up, .down] ∧
      ((session.performAll ops).2.inbox.guard.isDown ⟨.touch, 1⟩ = true ↔
        Stroke.IsOpen (ofKey ⟨.touch, 1⟩ (Event.samples ((session.performAll ops).1 ++
          (session.performAll ops).2.backlog ++ (session.performAll ops).2.inbox.queue)))) := by
  intro settings press ops
  have hops : ∃ session,
      Session.begin settings (.new .host (some ⟨[], 0⟩) .nothing) = .ok session ∧
      session.PermitsAll ops := ⟨_, rfl, by decide⟩
  obtain ⟨session, hsession, hpermits⟩ := hops
  refine ⟨session, hsession, hpermits, ?_, (streams_performAll hsession hpermits).2.1 ⟨.touch, 1⟩⟩
  obtain rfl := Except.ok.inj hsession
  decide

end TouchPanel.Session
