import TouchPanel.Proofs.Producer.Waiting
import TouchPanel.Proofs.Session.Strokes

/-!
This module contains what a stop loses. A producer that waits for room in a full queue has already
told the guard of what it is about to put in. A stop gives that up, but it lifts the contacts that
the guard knows: the strokes of a contact come out whole exactly if what was given up leaves the
contact as it was before (`Session.closed_stop_iff`).
-/

namespace TouchPanel

namespace Producer

theorem isIdle_receive {producer : Producer} (h : producer.IsIdle) (events : List Host.Event) :
    (producer.receive events).IsIdle := by
  cases producer <;> exact h

theorem isIdle_prompt {producer : Producer} (h : producer.IsIdle) (event : Event) :
    (producer.prompt event).IsIdle := by
  cases producer <;> exact h

end Producer

namespace Session

open Stroke (ofKey)

/--
Nothing passes a producer that waits, and a stop gives up nothing.
-/
def Allows (session : Session) : Op → Prop
  | .push event =>
    session.inbox.isOpen = false ∨
      session.producer.waiting = [] ∧ session.inbox.hasRoom (session.inbox.arrivals event).length
  | .stop => session.isStarted = true → session.producer.waiting = []
  | _ => True

def AllowsAll (session : Session) : List Op → Prop
  | [] => True
  | op :: ops => session.Allows op ∧ (session.perform op).2.AllowsAll ops

instance (session : Session) (op : Op) : Decidable (session.Allows op) :=
  match op with
  | .push event =>
    inferInstanceAs (Decidable (session.inbox.isOpen = false ∨
      session.producer.waiting = [] ∧
        session.inbox.hasRoom (session.inbox.arrivals event).length = true))
  | .stop => inferInstanceAs (Decidable (session.isStarted = true → session.producer.waiting = []))
  | .start | .work | .poll | .drain | .pull | .elapse _ | .receive _ | .prompt _ => .isTrue trivial

instance decidableAllowsAll (session : Session) :
    (ops : List Op) → Decidable (session.AllowsAll ops)
  | [] => .isTrue trivial
  | op :: ops =>
    have := decidableAllowsAll (session.perform op).2 ops
    inferInstanceAs (Decidable (session.Allows op ∧ (session.perform op).2.AllowsAll ops))

/--
What holds of a session between any two operations, with the events that were taken from it: the
guard knows the strokes that they, the events in the inbox and those before it make.
-/
structure Carries (taken : List Event) (session : Session) : Prop where
  tracks : session.inbox.guard.Tracks
    (Event.samples (taken ++ session.pending ++ session.producer.waiting))
  isIdle : session.isStarted = false → session.producer.IsIdle
  isOpen : session.isStarted = true → session.inbox.isOpen = true

variable {session : Session} {taken : List Event}

theorem carries_begin {settings : Settings} {kind : ProducerKind} {pump : Option Host.Pump}
    {opener : Device.Opener} (h : Session.begin settings (.new kind pump opener) = .ok session) :
    Carries [] session := by
  have hsound := sound_begin h
  obtain ⟨prepared, hprepare, rfl⟩ := begin_eq_ok h
  constructor
  . rw [hsound.waiting, List.append_nil]
    exact hsound.tracks
  . intro _
    exact Producer.isIdle_prepare (Producer.isIdle_new kind pump opener) hprepare
  . intro hstarted
    contradiction

theorem sound_of_carries (h : Carries taken session) (hwaiting : session.producer.waiting = []) :
    Sound taken session := by
  have htracks := h.tracks
  rw [hwaiting, List.append_nil] at htracks
  exact ⟨htracks, hwaiting⟩

theorem carries_flows (h : Carries taken session) (hstarted : session.isStarted = true)
    {producer : Producer} {inbox : Inbox} {delivered : List Event}
    (hflows : session.inbox.Flows session.producer.waiting inbox producer.waiting delivered) :
    Carries taken { session with producer, inbox } := by
  constructor
  . have hstream : taken ++ (session.backlog ++ inbox.queue) ++ producer.waiting =
        taken ++ session.pending ++ session.producer.waiting ++ delivered := by
      unfold pending
      simp only [List.append_assoc]
      rw [hflows.queue]
      simp only [List.append_assoc]
    unfold pending
    dsimp only
    rw [hstream, Event.samples_append]
    exact hflows.tracks _ h.tracks
  . intro hstopped
    rw [hstarted] at hstopped
    contradiction
  . intro _
    rw [hflows.isOpen]
    exact h.isOpen hstarted

theorem carries_of_sound (hsound : Sound taken session)
    (hidle : session.isStarted = false → session.producer.IsIdle)
    (hopen : session.isStarted = true → session.inbox.isOpen = true) : Carries taken session := by
  constructor
  . rw [hsound.waiting, List.append_nil]
    exact hsound.tracks
  . exact hidle
  . exact hopen

theorem carries_takes (h : Carries taken session) {more : List Event} {next : Session}
    (htakes : session.Takes more next) : Carries (taken ++ more) next := by
  constructor
  . rw [htakes.guard, htakes.producer, List.append_assoc taken, htakes.pending]
    exact h.tracks
  . rw [htakes.isStarted, htakes.producer]
    exact h.isIdle
  . rw [htakes.isStarted, htakes.isOpen]
    exact h.isOpen

theorem carries_start (h : Carries taken session) : Carries taken session.start.1 := by
  unfold start
  split
  . exact h
  . next hstarted =>
    rw [Bool.not_eq_true] at hstarted
    have hidle := h.isIdle hstarted
    have hsound := sound_of_carries h (Producer.waiting_of_isIdle hidle)
    cases hstart : session.producer.start session.now with
    | ok producer =>
      apply carries_of_sound
      . exact ⟨hsound.tracks, Producer.waiting_start hstart⟩
      . exact nofun
      . exact fun _ => rfl
    | error =>
      apply carries_of_sound
      . exact ⟨hsound.tracks, hsound.waiting⟩
      . exact fun _ => hidle
      . intro hagain
        rw [hstarted] at hagain
        contradiction

theorem carries_push (h : Carries taken session) {event : Event}
    (hallows : session.Allows (.push event)) : Carries taken (session.push event).1 := by
  unfold push
  rcases hallows with hclosed | ⟨hwaiting, hroom⟩
  . rw [Inbox.push_of_closed hclosed]
    exact h
  . rcases session.inbox.push_cases event with ⟨-, hpush⟩ | ⟨-, hgrows⟩ | ⟨-, hfull, -⟩
    . rw [hpush]
      exact h
    . apply carries_of_sound
      . exact sound_grows (sound_of_carries h hwaiting) hgrows hwaiting
      . exact h.isIdle
      . dsimp only
        rw [hgrows.isOpen]
        exact h.isOpen
    . rw [hfull] at hroom
      contradiction

theorem carries_pull (h : Carries taken session) : Carries taken session.pull := by
  unfold pull
  split
  . next hstarted =>
    cases hproducer : session.producer with
    | host relay =>
      have hwaiting : session.producer.waiting = [] := by
        rw [hproducer]
        rfl
      obtain ⟨entered, hgrows⟩ := (Producer.host relay).grows_pull session.now session.inbox
      apply carries_of_sound
      . exact sound_grows (sound_of_carries h hwaiting) hgrows rfl
      . exact fun _ => trivial
      . dsimp only
        rw [hgrows.isOpen]
        exact h.isOpen
    | panel | synthetic =>
      unfold Producer.pull
      dsimp only
      rw [← hproducer]
      exact h
  . exact h

theorem carries_work (h : Carries taken session) : Carries taken session.work := by
  unfold work
  cases hstarted : session.isStarted with
  | false =>
    rw [Producer.work_of_isIdle (h.isIdle hstarted), ← hstarted]
    exact h
  | true =>
    obtain ⟨delivered, hflows⟩ :=
      session.producer.flows_work session.now (h.isOpen hstarted)
    have hnext := carries_flows h hstarted hflows
    rw [hstarted] at hnext
    exact hnext

theorem carries_stop (h : Carries taken session) (hallows : session.Allows .stop) :
    Carries taken session.stop := by
  cases hstarted : session.isStarted with
  | false =>
    rw [stop_of_not_isStarted hstarted]
    exact h
  | true =>
    apply carries_of_sound
    . exact sound_stop (sound_of_carries h (hallows hstarted))
    . intro _
      unfold stop
      rw [if_pos hstarted]
      apply Producer.isIdle_stop
    . intro hagain
      unfold stop at hagain
      rw [if_pos hstarted] at hagain
      contradiction

theorem carries_perform (h : Carries taken session) {op : Op} (hallows : session.Allows op) :
    Carries (taken ++ (session.perform op).1) (session.perform op).2 := by
  cases op with
  | poll => exact carries_takes (carries_pull h) session.takes_poll
  | drain => exact carries_takes (carries_pull h) session.takes_drain
  | start =>
    unfold perform
    rw [List.append_nil]
    exact carries_start h
  | stop =>
    unfold perform
    rw [List.append_nil]
    exact carries_stop h hallows
  | push =>
    unfold perform
    rw [List.append_nil]
    exact carries_push h hallows
  | pull =>
    unfold perform
    rw [List.append_nil]
    exact carries_pull h
  | work =>
    unfold perform
    rw [List.append_nil]
    exact carries_work h
  | elapse =>
    unfold perform
    rw [List.append_nil]
    exact ⟨h.tracks, h.isIdle, h.isOpen⟩
  | receive events =>
    unfold perform
    rw [List.append_nil]
    constructor
    . dsimp only
      rw [Producer.waiting_receive]
      exact h.tracks
    . intro hstopped
      exact Producer.isIdle_receive (h.isIdle hstopped) events
    . exact h.isOpen
  | prompt event =>
    unfold perform
    rw [List.append_nil]
    constructor
    . dsimp only
      rw [Producer.waiting_prompt]
      exact h.tracks
    . intro hstopped
      exact Producer.isIdle_prompt (h.isIdle hstopped) event
    . exact h.isOpen

theorem carries_performAll (h : Carries taken session) {ops : List Op}
    (hops : session.AllowsAll ops) :
    Carries (taken ++ (session.performAll ops).1) (session.performAll ops).2 := by
  induction ops generalizing session taken with
  | nil =>
    unfold performAll
    rw [List.append_nil]
    exact h
  | cons op ops ih =>
    obtain ⟨hop, hrest⟩ := hops
    unfold performAll
    dsimp only
    rw [← List.append_assoc]
    apply ih (carries_perform h hop) hrest

theorem stop_of_full (hstarted : session.isStarted = true)
    (hfull : session.inbox.queue.length = Inbox.capacity) :
    session.stop.backlog =
        session.pending ++ (session.inbox.guard.release session.now).map .pointer ∧
      session.stop.inbox.queue = [] := by
  have hclosed : (session.inbox.setOpen false).isOpen = false := rfl
  have hfull' : (session.inbox.setOpen false).queue.length = Inbox.capacity := hfull
  have hinbox := session.producer.stop_of_full session.now hclosed hfull'
  unfold stop
  rw [if_pos hstarted]
  dsimp only
  rw [hinbox]
  exact ⟨rfl, rfl⟩

theorem closed_append_release_iff {guard : Guard} {seen lost : List Sample}
    (h : guard.Tracks (seen ++ lost)) (time : UInt64) (key : Key) :
    Stroke.Closed (ofKey key (seen ++ guard.release time)) ↔
      (Stroke.IsOpen (ofKey key (seen ++ lost)) ↔ Stroke.IsOpen (ofKey key seen)) := by
  have hrun := h.run key
  rw [Stroke.ofKey_append, Stroke.run_append] at hrun
  obtain ⟨isDown, hseen, hlost⟩ := Option.bind_eq_some_iff.1 hrun
  rw [← h.isDown_iff, Stroke.isOpen_iff_of_run hseen]
  unfold Stroke.Closed
  rw [Stroke.ofKey_append, Stroke.run_append, hseen, Stroke.ofKey_eq_map,
    Guard.samplesOf_release]
  unfold Guard.isDown
  cases guard.find? key <;> cases isDown <;> simp [Stroke.next, Sample.lifted]

/--
A delivery that finds the inbox closed leaves no trace, but one that is given up while it waits has
already been judged. So a session that is stopped while its queue is full keeps all that is in it
and lifts the contacts that its guard knows, and the strokes of a contact are whole exactly if what
waits leaves it up or down as it was. They are not if a single down or up waits.
-/
theorem closed_stop_iff {settings : Settings} {kind : ProducerKind} {pump : Option Host.Pump}
    {opener : Device.Opener}
    (hsession : Session.begin settings (.new kind pump opener) = .ok session)
    {ops : List Op} (hops : session.AllowsAll ops) :
    let taken := (session.performAll ops).1
    let last := (session.performAll ops).2
    let seen := Event.samples (taken ++ last.pending)
    let lost := Event.samples last.producer.waiting
    (∀ (inbox : Inbox) (sample : Sample),
      (inbox.isOpen = false → inbox.push (.pointer sample) = (inbox, .closed)) ∧
      ∀ rest, (inbox.push (.pointer sample)).2 = .waiting rest →
        (((inbox.push (.pointer sample)).1.setOpen false).enqueue rest).2 = .closed ∧
          (((inbox.push (.pointer sample)).1.setOpen false).enqueue rest).1.guard =
            (inbox.guard.judge sample).1) ∧
    (last.isStarted = true → last.inbox.queue.length = Inbox.capacity →
      last.stop.inbox.queue = [] ∧
      last.stop.backlog =
        last.pending ++ (last.inbox.guard.release last.now).map .pointer ∧
      ∀ key,
        (last.inbox.guard.isDown key = true ↔ Stroke.IsOpen (ofKey key (seen ++ lost))) ∧
        (Stroke.Closed (ofKey key (Event.samples (taken ++ last.stop.backlog))) ↔
          (Stroke.IsOpen (ofKey key (seen ++ lost)) ↔ Stroke.IsOpen (ofKey key seen))) ∧
        (ofKey key lost = [.down] ∨ ofKey key lost = [.up] →
          ¬ Stroke.Closed (ofKey key (Event.samples (taken ++ last.stop.backlog))))) := by
  intro taken last seen lost
  refine ⟨Inbox.guard_of_cutOff, ?_⟩
  intro hstarted hfull
  have h : Carries taken last := carries_performAll (carries_begin hsession) hops
  have htracks : last.inbox.guard.Tracks (seen ++ lost) := by
    have htracks := h.tracks
    rw [Event.samples_append] at htracks
    exact htracks
  obtain ⟨hbacklog, hqueue⟩ := stop_of_full hstarted hfull
  refine ⟨hqueue, hbacklog, ?_⟩
  intro key
  have hstream : Event.samples (taken ++ last.stop.backlog) =
      seen ++ last.inbox.guard.release last.now := by
    rw [hbacklog, ← List.append_assoc, Event.samples_append, Event.samples_map_pointer]
  have hclosed := closed_append_release_iff htracks last.now key
  rw [hstream]
  refine ⟨htracks.isDown_iff key, hclosed, ?_⟩
  intro hlone
  rw [hclosed]
  have hrun := htracks.run key
  rw [Stroke.ofKey_append, Stroke.run_append] at hrun
  obtain ⟨isDown, hseen, hlost⟩ := Option.bind_eq_some_iff.1 hrun
  rw [← htracks.isDown_iff, Stroke.isOpen_iff_of_run hseen]
  rcases hlone with hdown | hup
  . rw [hdown] at hlost
    cases isDown <;> simp_all [Stroke.next]
  . rw [hup] at hlost
    cases isDown <;> simp_all [Stroke.next]

/--
The keys fill the queue, and a contact goes down while there is no room.
-/
def crowded : List Op :=
  List.replicate Inbox.capacity (.push (.key ⟨7, true, 0⟩)) ++
    [.prompt (.pointer ⟨.down, 1, 0, 0, 1, 0, .mock⟩), .start, .elapse 1000, .work, .work]

theorem closed_stop_iff_crowded :
    ∃ session,
      Session.begin (.ofPattern none) (.new .synthetic none .nothing) = .ok session ∧
      session.AllowsAll crowded ∧
      (session.performAll crowded).2.isStarted = true ∧
      (session.performAll crowded).2.inbox.queue.length = Inbox.capacity ∧
      ¬ Stroke.Closed (ofKey ⟨.mock, 1⟩ (Event.samples ((session.performAll crowded).1 ++
        (session.performAll crowded).2.stop.backlog))) := by
  have hops : ∃ session,
      Session.begin (.ofPattern none) (.new .synthetic none .nothing) = .ok session ∧
      session.AllowsAll crowded := ⟨_, rfl, by decide +kernel⟩
  obtain ⟨session, hsession, hallows⟩ := hops
  have hwaiting : (session.performAll crowded).2.isStarted = true ∧
      (session.performAll crowded).2.inbox.queue.length = Inbox.capacity ∧
      ofKey ⟨.mock, 1⟩ (Event.samples (session.performAll crowded).2.producer.waiting) =
        [.down] := by
    obtain rfl := Except.ok.inj hsession
    decide +kernel
  refine ⟨session, hsession, hallows, hwaiting.1, hwaiting.2.1, ?_⟩
  obtain ⟨-, -, hkey⟩ := (closed_stop_iff hsession hallows).2 hwaiting.1 hwaiting.2.1
  exact (hkey ⟨.mock, 1⟩).2.2 (Or.inl hwaiting.2.2)

/--
The contact that goes down while there is no room comes out lifted, without having been down.
-/
theorem ofKey_stop_crowded :
    ∃ session,
      Session.begin (.ofPattern none) (.new .synthetic none .nothing) = .ok session ∧
      (session.performAll crowded).2.producer.waiting =
        [.pointer ⟨.down, 1, 0, 0, 1, 1000, .mock⟩] ∧
      (session.performAll (crowded ++ [.stop, .drain])).1 =
        List.replicate Inbox.capacity (.key ⟨7, true, 0⟩) ++
          [.pointer ⟨.up, 1, 0, 0, 1, 1000, .mock⟩] ∧
      ¬ Stroke.Follows (ofKey ⟨.mock, 1⟩
        (Event.samples (session.performAll (crowded ++ [.stop, .drain])).1)) :=
  ⟨_, rfl, by decide +kernel⟩

end Session

end TouchPanel
