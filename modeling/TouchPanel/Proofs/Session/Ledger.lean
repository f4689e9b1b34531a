import Mathlib.Data.List.Forall2
import TouchPanel.Proofs.Producer.Ledger
import TouchPanel.Proofs.Session.Strokes

/-!
This module contains the proof that a session loses no event and hands out none twice: what was
handed to the consumer, the backlog and the queue are what came in, in that order, and the tally has
the numbers of it (`Session.accounts_actAll`).

What comes in is written down in a ledger, operation by operation (`Session.ledger`).
-/

namespace TouchPanel.Session

inductive Handed where
  | event (event : Event)
  | host (event : Host.Event)
  deriving DecidableEq, Repr

inductive Handed.Shows : Event → Handed → Prop where
  | event (event : Event) : Shows event (.event event)
  | host (event : Event) : Shows event (.host (.ofEvent event))

inductive Act where
  | op (op : Op)
  | forward
  deriving DecidableEq, Repr

def Act.effect : Act → Op
  | .op alone => alone
  | .forward => .drain

def act (session : Session) : Act → List Handed × Session
  | .op op => ((session.perform op).1.map .event, (session.perform op).2)
  | .forward => (session.forward.1.map .host, session.forward.2)

def actAll (session : Session) : List Act → List Handed × Session
  | [] => ([], session)
  | act :: acts =>
    let (handed, next) := session.act act
    let (rest, last) := next.actAll acts
    (handed ++ rest, last)

def PermitsActs (session : Session) : List Act → Prop
  | [] => True
  | act :: acts => session.Permits act.effect ∧ (session.act act).2.PermitsActs acts

instance decidablePermitsActs (session : Session) :
    (acts : List Act) → Decidable (session.PermitsActs acts)
  | [] => .isTrue trivial
  | act :: acts =>
    have := decidablePermitsActs (session.act act).2 acts
    inferInstanceAs (Decidable (session.Permits act.effect ∧ (session.act act).2.PermitsActs acts))

/--
The entries of an operation. The deliveries of a worker that is stopped are not among them, since a
stop closes the inbox first: none of them is done.
-/
def ledger (session : Session) : Op → Ledger
  | .push event => session.inbox.record event
  | .work => session.inbox.recordOf (session.producer.offered? session.now)
  | .poll | .drain | .pull =>
    if session.isStarted then session.producer.pullLedger session.now session.inbox else .empty
  | .stop =>
    if session.isStarted then .ofReleases (session.inbox.releaseAll session.now).1 else .empty
  | .start | .elapse _ | .receive _ | .prompt _ => .empty

def ledgerAll (session : Session) : List Act → Ledger
  | [] => .empty
  | act :: acts => session.ledger act.effect ++ (session.act act).2.ledgerAll acts

/--
What holds of a session between any two acts, with the events that were taken from it: the ledger
has them and those that are still waiting, and the tally has the numbers of the ledger.
-/
structure Accounts (taken : List Event) (session : Session) (ledger : Ledger) : Prop where
  order : taken ++ session.pending = ledger.entered
  tells : ledger.Tells session.inbox.tally
  balanced : ledger.Balanced

variable {session : Session} {taken : List Event} {ledger : Ledger}

theorem accounts_begin {settings : Settings} {producer : Producer}
    (h : Session.begin settings producer = .ok session) : Accounts [] session .empty := by
  obtain ⟨prepared, -, rfl⟩ := begin_eq_ok h
  exact ⟨rfl, Ledger.tells_zero, Ledger.balanced_empty⟩

theorem accounts_posts (h : Accounts taken session ledger) {inbox : Inbox} {entry : Ledger}
    (hposts : session.inbox.Posts inbox entry) (producer : Producer) :
    Accounts taken { session with producer, inbox } (ledger ++ entry) := by
  constructor
  . unfold pending
    rw [hposts.queue, Ledger.entered_append, ← h.order]
    unfold pending
    rw [List.append_assoc, List.append_assoc]
  . exact hposts.tells ledger h.tells
  . exact Ledger.balanced_append h.balanced hposts.balanced

theorem accounts_take (h : Accounts taken session ledger) {more : List Event} {next : Session}
    (htakes : session.Takes more next) : Accounts (taken ++ more) next ledger := by
  constructor
  . rw [List.append_assoc, htakes.pending]
    exact h.order
  . rw [htakes.tally]
    exact h.tells
  . exact h.balanced

theorem accounts_pull (h : Accounts taken session ledger) :
    Accounts taken session.pull (ledger ++ session.ledger .pull) := by
  unfold pull Session.ledger
  split
  . exact accounts_posts h (session.producer.posts_pull session.now session.inbox) _
  . rw [Ledger.append_empty]
    exact h

theorem accounts_stop (h : Accounts taken session ledger)
    (hwaiting : session.producer.waiting = []) :
    Accounts taken session.stop (ledger ++ session.ledger .stop) := by
  unfold Session.ledger
  dsimp only
  cases hstarted : session.isStarted with
  | false =>
    rw [stop_of_not_isStarted hstarted, if_neg Bool.false_ne_true, Ledger.append_empty]
    exact h
  | true =>
    obtain ⟨hbacklog, hqueue, -⟩ := stop_of_isStarted hstarted hwaiting
    have hclosed : (session.inbox.setOpen false).isOpen = false := rfl
    obtain ⟨hinbox, -⟩ := Producer.stop_of_closed hwaiting session.now hclosed
    have htally : session.stop.inbox.tally = (session.inbox.releaseAll session.now).2.tally := by
      unfold stop
      rw [if_pos hstarted]
      dsimp only
      rw [hinbox]
      rfl
    rw [if_pos rfl]
    constructor
    . unfold pending
      rw [hbacklog, hqueue, List.append_nil, ← List.append_assoc, h.order]
      rfl
    . rw [htally]
      exact Inbox.tells_releaseAll h.tells session.now
    . exact Ledger.balanced_append h.balanced (Ledger.balanced_ofReleases _)

theorem accounts_start (h : Accounts taken session ledger) :
    Accounts taken session.start.1 ledger := by
  unfold start
  split
  . exact h
  . cases session.producer.start session.now <;> exact ⟨h.order, h.tells, h.balanced⟩

theorem rest_push {event : Event} (hpermits : session.Permits (.push event)) :
    (session.inbox.push event).2.rest = [] := by
  rcases session.inbox.push_cases event with ⟨-, hpush⟩ | ⟨hdone, -⟩ | ⟨hopen, hfull, -⟩
  . rw [hpush]
    rfl
  . rw [hdone]
    rfl
  . rcases hpermits with hclosed | hroom
    . rw [hopen] at hclosed
      contradiction
    . rw [hfull] at hroom
      contradiction

theorem accounts_perform (h : Accounts taken session ledger) (hsound : Sound taken session)
    {op : Op} (hpermits : session.Permits op) :
    Accounts (taken ++ (session.perform op).1) (session.perform op).2
      (ledger ++ session.ledger op) := by
  cases op with
  | poll => exact accounts_take (accounts_pull h) session.takes_poll
  | drain => exact accounts_take (accounts_pull h) session.takes_drain
  | pull =>
    unfold perform
    rw [List.append_nil]
    exact accounts_pull h
  | stop =>
    unfold perform
    rw [List.append_nil]
    exact accounts_stop h hsound.waiting
  | push event =>
    unfold perform
    rw [List.append_nil]
    exact accounts_posts h (Inbox.posts_push (rest_push hpermits)) session.producer
  | work =>
    unfold perform
    rw [List.append_nil]
    exact accounts_posts h (Producer.posts_work hsound.waiting session.now hpermits) _
  | start =>
    unfold perform Session.ledger
    rw [List.append_nil, Ledger.append_empty]
    exact accounts_start h
  | elapse | receive | prompt =>
    unfold perform Session.ledger
    rw [List.append_nil, Ledger.append_empty]
    exact ⟨h.order, h.tells, h.balanced⟩

theorem shows_act (session : Session) (act : Act) :
    List.Forall₂ Handed.Shows (session.perform act.effect).1 (session.act act).1 ∧
      (session.act act).2 = (session.perform act.effect).2 := by
  cases act with
  | op op =>
    refine ⟨?_, rfl⟩
    unfold Session.act Act.effect
    rw [List.forall₂_map_right_iff, List.forall₂_same]
    intro event _
    exact .event event
  | forward =>
    refine ⟨?_, rfl⟩
    unfold Session.act forward Act.effect perform
    dsimp only
    rw [List.map_map, List.forall₂_map_right_iff, List.forall₂_same]
    intro event _
    exact .host event

theorem accounts_actAll_of_accounts (h : Accounts taken session ledger)
    (hsound : Sound taken session) {acts : List Act} (hacts : session.PermitsActs acts) :
    ∃ more, List.Forall₂ Handed.Shows more (session.actAll acts).1 ∧
      Accounts (taken ++ more) (session.actAll acts).2 (ledger ++ session.ledgerAll acts) ∧
      Sound (taken ++ more) (session.actAll acts).2 := by
  induction acts generalizing session taken ledger with
  | nil =>
    refine ⟨[], .nil, ?_, ?_⟩
    . rw [List.append_nil]
      unfold ledgerAll
      rw [Ledger.append_empty]
      exact h
    . rw [List.append_nil]
      exact hsound
  | cons act acts ih =>
    obtain ⟨hact, hrest⟩ := hacts
    obtain ⟨hshows, hnext⟩ := session.shows_act act
    have hperform := accounts_perform h hsound hact
    have hsound' := sound_perform hsound hact
    rw [← hnext] at hperform hsound'
    obtain ⟨more, hmore, haccounts, hlast⟩ := ih hperform hsound' hrest
    refine ⟨(session.perform act.effect).1 ++ more, ?_, ?_, ?_⟩
    . exact List.rel_append hshows hmore
    . rw [← List.append_assoc]
      unfold ledgerAll
      rw [← Ledger.append_assoc]
      exact haccounts
    . rw [← List.append_assoc]
      exact hlast

theorem ledgerAll_append (session : Session) (acts more : List Act) :
    session.ledgerAll (acts ++ more) =
      session.ledgerAll acts ++ (session.actAll acts).2.ledgerAll more := by
  induction acts generalizing session with
  | nil => exact (Ledger.empty_append _).symm
  | cons act acts ih =>
    have hcons : ∀ rest, session.ledgerAll (act :: rest) =
        session.ledger act.effect ++ (session.act act).2.ledgerAll rest := fun _ => rfl
    rw [List.cons_append, hcons, hcons, ih, Ledger.append_assoc]
    rfl

theorem permitsActs_append {acts more : List Act} :
    session.PermitsActs (acts ++ more) ↔
      session.PermitsActs acts ∧ (session.actAll acts).2.PermitsActs more := by
  induction acts generalizing session with
  | nil => exact ⟨fun h => ⟨trivial, h⟩, fun h => h.2⟩
  | cons act acts ih =>
    have hcons : ∀ rest, session.PermitsActs (act :: rest) ↔
        session.Permits act.effect ∧ (session.act act).2.PermitsActs rest := fun _ => Iff.rfl
    rw [List.cons_append, hcons, hcons, ih, and_assoc]
    rfl

/--
Whatever is done with a session in which no producer has to wait for room, what the consumer was
handed, the backlog and the queue are the events that came in or were released at a stop, in that
order and each once. The tally has the number of them, by kind, and the deliveries that were done
are as many as the events, apart from those that the guard turned away or added and the releases. No
number of the tally ever goes down.
-/
theorem accounts_actAll {settings : Settings} {kind : ProducerKind} {pump : Option Host.Pump}
    {opener : Device.Opener}
    (hsession : Session.begin settings (.new kind pump opener) = .ok session)
    {acts : List Act} (hacts : session.PermitsActs acts) :
    let handed := (session.actAll acts).1
    let last := (session.actAll acts).2
    let tally := last.inbox.tally
    let ledger := session.ledgerAll acts
    (∃ taken, List.Forall₂ Handed.Shows taken handed ∧
      taken ++ last.backlog ++ last.inbox.queue = ledger.entered) ∧
    (ledger.entered.length < UInt64.size →
      tally.total.toNat = tally.touch.toNat + tally.mouse.toNat + tally.keyboard.toNat ∧
      tally.total.toNat = handed.length + last.backlog.length + last.inbox.queue.length) ∧
    (ledger.entered.length < UInt64.size → ledger.done < UInt64.size →
      ledger.done + tally.implicitReleases.toNat + ledger.released =
        tally.total.toNat + tally.rejected.toNat ∧
      ∀ before act after, acts = before ++ act :: after →
        (session.actAll before).2.inbox.tally.AtMost
          ((session.actAll before).2.act act).2.inbox.tally) := by
  intro handed last tally ledger
  have hbegin := accounts_begin hsession
  have hsound := sound_begin hsession
  obtain ⟨taken, hshows, haccounts, -⟩ := accounts_actAll_of_accounts hbegin hsound hacts
  rw [List.nil_append, Ledger.empty_append] at haccounts
  have horder : taken ++ last.backlog ++ last.inbox.queue = ledger.entered := by
    rw [List.append_assoc]
    exact haccounts.order
  refine ⟨⟨taken, hshows, horder⟩, ?_, ?_⟩
  . intro hsize
    refine ⟨Ledger.total_eq_of_tells haccounts.tells hsize, ?_⟩
    rw [Ledger.toNat_total_of_tells haccounts.tells hsize, ← hshows.length_eq]
    have hlength := congrArg List.length horder
    rw [List.length_append, List.length_append] at hlength
    exact hlength.symm
  . intro hsize hdone
    refine ⟨Ledger.balance_of_tells haccounts.tells haccounts.balanced hsize hdone, ?_⟩
    rintro before act after rfl
    rw [permitsActs_append] at hacts
    obtain ⟨hbefore, hact, -⟩ := hacts
    obtain ⟨earlier, -, hearlier, hsound'⟩ := accounts_actAll_of_accounts hbegin hsound hbefore
    have hnext := accounts_perform hearlier hsound' hact
    rw [← (shows_act _ act).2] at hnext
    -- The ledger of the whole run goes on from the one after the act.
    have hledger : ledger = Ledger.empty ++ session.ledgerAll before ++
        (session.actAll before).2.ledger act.effect ++
        ((session.actAll before).2.act act).2.ledgerAll after := by
      rw [Ledger.empty_append, Ledger.append_assoc]
      exact ledgerAll_append session before (act :: after)
    rw [hledger, Ledger.entered_append, List.length_append] at hsize
    rw [hledger, Ledger.done_append] at hdone
    exact Ledger.atMost_of_tells hearlier.tells hnext.tells hnext.balanced
      (Nat.lt_of_add_right_lt hsize) (Nat.lt_of_add_right_lt hdone)

/--
A contact goes down twice and moves another one that is not down, before the session is stopped and
all is handed out.
-/
theorem accounts_actAll_forwarded :
    let settings : Settings := { Settings.standard with producer := .host }
    let press : Event := .pointer ⟨.down, 1, 0, 0, 1, 3, .touch⟩
    let stray : Event := .pointer ⟨.move, 2, 0, 0, 1, 3, .touch⟩
    let acts : List Act :=
      [.op .start, .op (.push press), .op (.push stray), .op (.push press), .op .poll, .op .stop,
        .forward]
    ∃ session,
      Session.begin settings (.new .host (some ⟨[], 0⟩) .nothing) = .ok session ∧
      session.PermitsActs acts ∧
      (session.actAll acts).2.inbox.tally = ⟨4, 4, 0, 0, 1, 1⟩ ∧
      (session.ledgerAll acts).done + (session.actAll acts).2.inbox.tally.implicitReleases.toNat +
          (session.ledgerAll acts).released =
        (session.actAll acts).2.inbox.tally.total.toNat +
          (session.actAll acts).2.inbox.tally.rejected.toNat := by
  intro settings press stray acts
  have hacts : ∃ session,
      Session.begin settings (.new .host (some ⟨[], 0⟩) .nothing) = .ok session ∧
      session.PermitsActs acts := ⟨_, rfl, by decide⟩
  obtain ⟨session, hsession, hpermits⟩ := hacts
  have hsize : (session.ledgerAll acts).entered.length < UInt64.size ∧
      (session.ledgerAll acts).done < UInt64.size ∧
      (session.actAll acts).2.inbox.tally = ⟨4, 4, 0, 0, 1, 1⟩ := by
    obtain rfl := Except.ok.inj hsession
    decide
  exact ⟨session, hsession, hpermits, hsize.2.2,
    ((accounts_actAll hsession hpermits).2.2 hsize.1 hsize.2.1).1⟩

end TouchPanel.Session
