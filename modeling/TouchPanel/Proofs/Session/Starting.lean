import TouchPanel.Proofs.Producer.Queue
import TouchPanel.Proofs.Session.Ledger
import TouchPanel.Proofs.Session.Mirroring
import TouchPanel.Proofs.Session.Waiting

/-!
This module contains what a start that fails leaves behind: the session as it was, with its inbox
open exactly if it runs (`Session.start_undergoAll`). So nothing gets into a session that is
stopped, and the events that it has kept come first when it runs again.

The devices that can be opened may change at any time, so a panel that has once been started may
not start again.
-/

namespace TouchPanel

namespace Producer

def plug (producer : Producer) (opener : Device.Opener) : Producer :=
  match producer with
  | panel p => panel { p with opener }
  | other => other

theorem isIdle_plug {producer : Producer} (h : producer.IsIdle) (opener : Device.Opener) :
    (producer.plug opener).IsIdle := by
  cases producer <;> exact h

theorem waiting_plug (producer : Producer) (opener : Device.Opener) :
    (producer.plug opener).waiting = producer.waiting := by
  cases producer <;> rfl

end Producer

namespace Session

/--
An operation, the consumer takes all events in the form of the host toolkit, or the devices that
can be opened are others from now on.
-/
inductive Deed where
  | op (op : Op)
  | forward
  | plug (opener : Device.Opener)

def plug (session : Session) (opener : Device.Opener) : Session :=
  { session with producer := session.producer.plug opener }

/--
The session after a deed, and the events that the consumer has taken by it, before they are given
the form of the host toolkit.
-/
def undergo (session : Session) : Deed → List Event × Session
  | .op op => session.perform op
  | .forward => (session.drain.1, session.forward.2)
  | .plug opener => ([], session.plug opener)

def undergoAll (session : Session) : List Deed → List Event × Session
  | [] => ([], session)
  | deed :: deeds =>
    let (taken, next) := session.undergo deed
    let (rest, last) := next.undergoAll deeds
    (taken ++ rest, last)

structure Poised (session : Session) : Prop where
  isIdle : session.isStarted = false → session.producer.IsIdle
  isOpen : session.isStarted = true → session.inbox.isOpen = true

/--
A session neither starts nor stops. Events are taken, and others come in behind those that wait, but
none comes in while the session is stopped and its inbox is closed.
-/
structure Goes (session : Session) (taken : List Event) (next : Session) : Prop where
  isStarted : next.isStarted = session.isStarted
  isOpen : next.inbox.isOpen = session.inbox.isOpen
  isIdle : session.isStarted = false → session.producer.IsIdle → next.producer.IsIdle
  pending : session.pending <+: taken ++ next.pending
  rests : session.isStarted = false → session.inbox.isOpen = false → session.producer.IsIdle →
    taken ++ next.pending = session.pending

variable {session next last : Session} {taken more : List Event}

theorem goes_of_takes (h : session.Takes taken next) : session.Goes taken next := by
  constructor
  . exact h.isStarted
  . exact h.isOpen
  . intro _ hidle
    rw [h.producer]
    exact hidle
  . rw [h.pending]
  . exact fun _ _ _ => h.pending

theorem goes_trans (h : session.Goes taken next) (hmore : next.Goes more last) :
    session.Goes (taken ++ more) last := by
  constructor
  . exact hmore.isStarted.trans h.isStarted
  . exact hmore.isOpen.trans h.isOpen
  . intro hstopped hidle
    exact hmore.isIdle (h.isStarted.trans hstopped) (h.isIdle hstopped hidle)
  . rw [List.append_assoc]
    exact h.pending.trans ((List.prefix_append_right_inj taken).2 hmore.pending)
  . intro hstopped hclosed hidle
    rw [List.append_assoc, hmore.rests (h.isStarted.trans hstopped) (h.isOpen.trans hclosed)
      (h.isIdle hstopped hidle)]
    exact h.rests hstopped hclosed hidle

theorem pending_of_keeps {inbox : Inbox} (h : session.inbox.Keeps inbox) :
    session.pending <+: session.backlog ++ inbox.queue :=
  (List.prefix_append_right_inj _).2 h.queue

theorem goes_pull (session : Session) : session.Goes [] session.pull := by
  unfold pull
  split
  . next hstarted =>
    have hkeeps := Producer.keeps_pull session.now session.inbox session.producer
    constructor
    . rfl
    . exact hkeeps.isOpen
    . intro hstopped
      rw [hstarted] at hstopped
      contradiction
    . exact pending_of_keeps hkeeps
    . intro hstopped
      rw [hstarted] at hstopped
      contradiction
  . exact goes_of_takes ⟨rfl, rfl, rfl, rfl, rfl, rfl⟩

theorem goes_poll (session : Session) : session.Goes session.poll.1.toList session.poll.2 := by
  rw [← List.nil_append session.poll.1.toList]
  exact goes_trans session.goes_pull (goes_of_takes session.takes_poll)

theorem goes_drain (session : Session) : session.Goes session.drain.1 session.drain.2 := by
  rw [← List.nil_append session.drain.1]
  exact goes_trans session.goes_pull (goes_of_takes session.takes_drain)

theorem goes_work (session : Session) : session.Goes [] session.work := by
  have hkeeps := Producer.keeps_work session.now session.inbox session.producer
  constructor
  . rfl
  . exact hkeeps.isOpen
  . intro _ hidle
    unfold work
    rw [Producer.work_of_isIdle hidle]
    exact hidle
  . exact pending_of_keeps hkeeps
  . intro _ _ hidle
    unfold work
    rw [Producer.work_of_isIdle hidle]
    rfl

theorem goes_push (session : Session) (event : Event) :
    session.Goes [] (session.push event).1 := by
  have hkeeps := session.inbox.keeps_push event
  constructor
  . rfl
  . exact hkeeps.isOpen
  . exact fun _ hidle => hidle
  . exact pending_of_keeps hkeeps
  . intro _ hclosed _
    unfold push
    rw [Inbox.push_of_closed hclosed]
    rfl

theorem undergo_cases (session : Session) (deed : Deed) :
    deed = .op .start ∨ deed = .op .stop ∨
      session.Goes (session.undergo deed).1 (session.undergo deed).2 := by
  cases deed with
  | forward => exact .inr (.inr session.goes_drain)
  | plug opener =>
    refine .inr (.inr ⟨rfl, rfl, fun _ hidle => Producer.isIdle_plug hidle opener, ?_, ?_⟩)
    . exact List.prefix_refl _
    . exact fun _ _ _ => rfl
  | op op =>
    cases op with
    | start => exact .inl rfl
    | stop => exact .inr (.inl rfl)
    | push event => exact .inr (.inr (session.goes_push event))
    | poll => exact .inr (.inr session.goes_poll)
    | drain => exact .inr (.inr session.goes_drain)
    | pull => exact .inr (.inr session.goes_pull)
    | work => exact .inr (.inr session.goes_work)
    | elapse => exact .inr (.inr (goes_of_takes ⟨rfl, rfl, rfl, rfl, rfl, rfl⟩))
    | receive events =>
      refine .inr (.inr ⟨rfl, rfl, fun _ hidle => Producer.isIdle_receive hidle events, ?_, ?_⟩)
      . exact List.prefix_refl _
      . exact fun _ _ _ => rfl
    | prompt event =>
      refine .inr (.inr ⟨rfl, rfl, fun _ hidle => Producer.isIdle_prompt hidle event, ?_, ?_⟩)
      . exact List.prefix_refl _
      . exact fun _ _ _ => rfl

/--
A start succeeds, and opens the inbox, or changes nothing but the inbox, which is open afterwards
exactly if the session runs.
-/
theorem start_cases (h : session.Poised) :
    (session.isStarted = false ∧ ∃ producer, session.producer.start session.now = .ok producer ∧
      session.start =
        ({ session with producer, inbox := session.inbox.setOpen true, isStarted := true },
          .ok ())) ∨
    ∃ fault, session.start =
      ({ session with inbox := session.inbox.setOpen session.isStarted }, .error fault) := by
  unfold start
  split
  . next hstarted =>
    have hsame : session.inbox.setOpen session.isStarted = session.inbox := by
      rw [hstarted, ← h.isOpen hstarted]
      rfl
    rw [hsame]
    exact .inr ⟨.alreadyRunning, rfl⟩
  . next hstopped =>
    rw [Bool.not_eq_true] at hstopped
    cases session.producer.start session.now with
    | ok producer => exact .inl ⟨hstopped, producer, rfl, rfl⟩
    | error fault =>
      rw [hstopped]
      exact .inr ⟨fault, rfl⟩

theorem stop_cases (session : Session) :
    (session.isStarted = false ∧ session.stop = session) ∨
      session.isStarted = true ∧ session.stop.isStarted = false ∧
        session.stop.inbox.isOpen = false ∧ session.stop.producer.IsIdle ∧
        session.pending <+: session.stop.pending := by
  cases hstarted : session.isStarted with
  | false => exact .inl ⟨rfl, stop_of_not_isStarted hstarted⟩
  | true =>
    have hkeeps := Producer.keeps_stop session.now (session.inbox.setOpen false) session.producer
    refine .inr ⟨rfl, ?_⟩
    unfold stop
    rw [if_pos hstarted]
    refine ⟨rfl, hkeeps.isOpen, Producer.isIdle_stop _ _ _, ?_⟩
    unfold pending Inbox.takeAll Inbox.releaseAll
    dsimp only
    rw [List.append_nil]
    have hqueue : session.pending <+: session.backlog ++ _ :=
      (List.prefix_append_right_inj _).2 hkeeps.queue
    exact hqueue.trans (List.prefix_append _ _)

theorem poised_begin {settings : Settings} {kind : ProducerKind} {pump : Option Host.Pump}
    {opener : Device.Opener} (h : Session.begin settings (.new kind pump opener) = .ok session) :
    session.Poised :=
  have hcarries := carries_begin h
  ⟨hcarries.isIdle, hcarries.isOpen⟩

theorem poised_undergo (h : session.Poised) (deed : Deed) : (session.undergo deed).2.Poised := by
  rcases session.undergo_cases deed with rfl | rfl | hgoes
  . change session.start.1.Poised
    rcases start_cases h with ⟨-, producer, -, hstart⟩ | ⟨fault, hstart⟩
    . rw [hstart]
      exact ⟨nofun, fun _ => rfl⟩
    . rw [hstart]
      exact ⟨h.isIdle, fun hstarted => hstarted⟩
  . change session.stop.Poised
    rcases session.stop_cases with ⟨-, hsame⟩ | ⟨-, hstopped, -, hidle, -⟩
    . rw [hsame]
      exact h
    . refine ⟨fun _ => hidle, ?_⟩
      intro hstarted
      rw [hstopped] at hstarted
      contradiction
  . constructor
    . intro hstopped
      rw [hgoes.isStarted] at hstopped
      exact hgoes.isIdle hstopped (h.isIdle hstopped)
    . rw [hgoes.isStarted, hgoes.isOpen]
      exact h.isOpen

theorem poised_undergoAll (h : session.Poised) (deeds : List Deed) :
    (session.undergoAll deeds).2.Poised := by
  induction deeds generalizing session with
  | nil => exact h
  | cons deed deeds ih => exact ih (poised_undergo h deed)

end Session

end TouchPanel
