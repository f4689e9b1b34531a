import TouchPanel.Proofs.Producer.Delivery
import TouchPanel.Session.Basic

/-!
This module contains the runs of a session: everything that its consumer, its producer and the world
around them do, in any order, and the events that the consumer takes.
-/

namespace TouchPanel

namespace Producer

def receive (producer : Producer) (events : List Host.Event) : Producer :=
  match producer with
  | host relay => host { relay with pump := relay.pump.map (·.pushAll events) }
  | other => other

def prompt (producer : Producer) (event : Event) : Producer :=
  match producer with
  | synthetic synthesizer =>
    synthetic { synthesizer with script := (synthesizer.script.push event).1 }
  | other => other

theorem waiting_receive (producer : Producer) (events : List Host.Event) :
    (producer.receive events).waiting = producer.waiting := by
  cases producer <;> rfl

theorem waiting_prompt (producer : Producer) (event : Event) :
    (producer.prompt event).waiting = producer.waiting := by
  cases producer <;> rfl

end Producer

namespace Session

theorem begin_eq_ok {settings : Settings} {producer : Producer} {session : Session}
    (h : Session.begin settings producer = .ok session) :
    ∃ prepared, producer.prepare settings = .ok prepared ∧
      session =
        { settings
          producer := prepared
          inbox := .new
          backlog := []
          isStarted := false
          now := 0 } := by
  unfold Session.begin at h
  simp only [bind, Except.bind, pure, Except.pure, throw, throwThe, MonadExceptOf.throw] at h
  split at h
  . contradiction
  . split at h
    . contradiction
    . split at h
      . contradiction
      . next prepared hprepare => exact ⟨prepared, hprepare, (Except.ok.inj h).symm⟩

theorem stop_of_not_isStarted {session : Session} (h : session.isStarted = false) :
    session.stop = session := by
  unfold stop
  rw [h]
  rfl

inductive Op where
  | start
  | stop
  | push (event : Event)
  | poll
  | drain
  | pull
  | work
  | elapse (span : UInt64)
  | receive (events : List Host.Event)
  | prompt (event : Event)
  deriving DecidableEq, Repr

def perform (session : Session) : Op → List Event × Session
  | .start => ([], session.start.1)
  | .stop => ([], session.stop)
  | .push event => ([], (session.push event).1)
  | .poll => (session.poll.1.toList, session.poll.2)
  | .drain => session.drain
  | .pull => ([], session.pull)
  | .work => ([], session.work)
  | .elapse span => ([], session.elapse span)
  | .receive events => ([], { session with producer := session.producer.receive events })
  | .prompt event => ([], { session with producer := session.producer.prompt event })

def performAll (session : Session) : List Op → List Event × Session
  | [] => ([], session)
  | op :: ops =>
    let (taken, next) := session.perform op
    let (rest, last) := next.performAll ops
    (taken ++ rest, last)

/--
No producer is left waiting for room by an operation.
-/
def Permits (session : Session) : Op → Prop
  | .push event =>
    session.inbox.isOpen = false ∨ session.inbox.hasRoom (session.inbox.arrivals event).length
  | .work => session.work.producer.waiting = []
  | _ => True

def PermitsAll (session : Session) : List Op → Prop
  | [] => True
  | op :: ops => session.Permits op ∧ (session.perform op).2.PermitsAll ops

instance (session : Session) (op : Op) : Decidable (session.Permits op) :=
  match op with
  | .push event =>
    inferInstanceAs (Decidable (session.inbox.isOpen = false ∨
      session.inbox.hasRoom (session.inbox.arrivals event).length = true))
  | .work => inferInstanceAs (Decidable (session.work.producer.waiting = []))
  | .start | .stop | .poll | .drain | .pull | .elapse _ | .receive _ | .prompt _ => .isTrue trivial

instance decidablePermitsAll (session : Session) :
    (ops : List Op) → Decidable (session.PermitsAll ops)
  | [] => .isTrue trivial
  | op :: ops =>
    have := decidablePermitsAll (session.perform op).2 ops
    inferInstanceAs (Decidable (session.Permits op ∧ (session.perform op).2.PermitsAll ops))

/--
The consumer takes all events before each step of the producer.
-/
def Op.attend : Nat → List Op
  | 0 => []
  | count + 1 => .drain :: .work :: attend count

theorem Op.count_attend (count : Nat) : (attend count).count .work = count := by
  induction count with
  | zero => rfl
  | succ count ih =>
    unfold attend
    rw [List.count_cons, List.count_cons, ih]
    rfl

/--
Events are taken from those that wait, and all else stays as it is.
-/
structure Takes (session : Session) (taken : List Event) (next : Session) : Prop where
  pending : taken ++ next.pending = session.pending
  guard : next.inbox.guard = session.inbox.guard
  tally : next.inbox.tally = session.inbox.tally
  isOpen : next.inbox.isOpen = session.inbox.isOpen
  producer : next.producer = session.producer
  isStarted : next.isStarted = session.isStarted

theorem takes_poll (session : Session) :
    session.pull.Takes session.poll.1.toList session.poll.2 := by
  unfold poll
  dsimp only
  generalize session.pull = pulled
  cases hbacklog : pulled.backlog with
  | nil =>
    have hqueue : pulled.inbox.queue.head?.toList ++ pulled.inbox.queue.tail =
        pulled.inbox.queue := by
      cases pulled.inbox.queue <;> rfl
    refine ⟨?_, rfl, rfl, rfl, rfl, rfl⟩
    unfold pending Inbox.take?
    rw [hbacklog]
    exact hqueue
  | cons event backlog =>
    refine ⟨?_, rfl, rfl, rfl, rfl, rfl⟩
    unfold pending
    rw [hbacklog]
    rfl

theorem takes_drain (session : Session) : session.pull.Takes session.drain.1 session.drain.2 := by
  unfold drain
  dsimp only
  refine ⟨?_, rfl, rfl, rfl, rfl, rfl⟩
  unfold pending Inbox.takeAll
  dsimp only
  rw [List.append_nil, List.append_nil]

theorem permits_work_of_hasRoom {session : Session} (hwaiting : session.producer.waiting = [])
    (hroom : session.inbox.hasRoom 2 = true) : session.Permits .work := by
  have hpasses := Producer.passes_work hwaiting session.now session.inbox
  change (session.producer.work session.now session.inbox).1.waiting = []
  generalize (session.producer.work session.now session.inbox).2 = inbox at hpasses
  generalize (session.producer.work session.now session.inbox).1.waiting = waiting at hpasses ⊢
  cases hpasses with
  | rest => rfl
  | push event => exact Inbox.rest_push_of_hasRoom hroom event

theorem permitsAll_attend {session : Session} (hwaiting : session.producer.waiting = [])
    (count : Nat) : session.PermitsAll (Op.attend count) := by
  induction count generalizing session with
  | zero => trivial
  | succ count ih =>
    have hdrained : session.drain.2.producer.waiting = [] := by
      rw [session.takes_drain.producer]
      unfold pull
      split
      . rw [← hwaiting]
        apply Producer.waiting_pull
      . exact hwaiting
    have hwork : session.drain.2.Permits .work := permits_work_of_hasRoom hdrained rfl
    exact ⟨trivial, hwork, ih hwork⟩

end Session

end TouchPanel
