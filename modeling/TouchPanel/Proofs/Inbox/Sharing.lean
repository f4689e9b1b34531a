import Mathlib.Logic.Function.Basic
import TouchPanel.Proofs.Inbox.Ledger
import TouchPanel.Proofs.Inbox.Waiting
import TouchPanel.Proofs.Pointer.Apart

/-!
This module contains producers that share an open inbox, each with contacts of its own. Main
statement: `Inbox.Shared.delivers_turnAll`. However the turns of the producers and of the consumer
fall, every contact is treated as if its producer were alone, and what the guard knows and counts in
the end does not depend on the turns.
-/

namespace TouchPanel

namespace Verdict

def isRejected (verdict : Verdict) : Bool :=
  verdict matches .rejected _

def isImplicitRelease (verdict : Verdict) : Bool :=
  verdict matches .implicitRelease ..

end Verdict

namespace Ledger

theorem rejected_ofDelivery (guard : Guard) (sample : Sample) :
    (ofDelivery guard (.pointer sample)).rejected =
      [(guard.judge sample).2].countP Verdict.isRejected := by
  rw [List.countP_singleton]
  rfl

theorem implicitReleases_ofDelivery (guard : Guard) (sample : Sample) :
    (ofDelivery guard (.pointer sample)).implicitReleases =
      [(guard.judge sample).2].countP Verdict.isImplicitRelease := by
  rw [List.countP_singleton]
  rfl

end Ledger

namespace Inbox

open Stroke (samplesOf samplesOf_append)

def judge (inbox : Inbox) (sample : Sample) : Inbox :=
  { inbox with guard := (inbox.guard.judge sample).1, tally := inbox.judged (.pointer sample) }

theorem push_eq_enqueue_judge {inbox : Inbox} (hopen : inbox.isOpen = true) (sample : Sample) :
    inbox.push (.pointer sample) =
      (inbox.judge sample).enqueue (inbox.arrivals (.pointer sample)) := by
  obtain ⟨guard, hpush⟩ := push_eq_enqueue hopen (.pointer sample)
  have hguard : guard = (inbox.guard.judge sample).1 := by
    rw [← guard_push hopen, hpush, (queue_enqueue (by exact hopen) _).2.1]
  rw [hpush, hguard]
  rfl

theorem enqueue_split {inbox : Inbox} (hopen : inbox.isOpen = true) (events : List Event) :
    ∃ entered, events = entered ++ (inbox.enqueue events).2.rest ∧
      (inbox.enqueue events).1.queue = inbox.queue ++ entered ∧
      (inbox.enqueue events).1.tally = entered.foldl Tally.count inbox.tally := by
  induction events generalizing inbox with
  | nil => exact ⟨[], rfl, (List.append_nil _).symm, rfl⟩
  | cons event events ih =>
    unfold enqueue
    rw [if_pos hopen]
    split
    . next hroom =>
      generalize hnext : ({ inbox with
        queue := inbox.queue ++ [event]
        tally := inbox.tally.count event
        length_queue_le := by rw [List.length_append]; exact hroom } : Inbox) = next
      have hstill : next.isOpen = true := by rw [← hnext]; exact hopen
      have hqueue : next.queue = inbox.queue ++ [event] := by rw [← hnext]
      have htally : next.tally = inbox.tally.count event := by rw [← hnext]
      obtain ⟨entered, hevents, hqueue', htally'⟩ := ih hstill
      refine ⟨event :: entered, ?_, ?_, ?_⟩
      . rw [List.cons_append, ← hevents]
      . rw [hqueue', hqueue, List.append_assoc]
        rfl
      . rw [htally', htally, List.foldl_cons]
    . exact ⟨[], rfl, (List.append_nil _).symm, rfl⟩

def Owns (stream : List Sample) (key : Key) : Prop :=
  ∃ sample ∈ stream, sample.key = key

/--
How far a producer has come with its stream, if the guard was given the samples that were judged,
and those that were delivered have been put in.
-/
structure Supplies (guard : Guard) (stream ahead : List Sample) (waiting : List Event)
    (judged delivered : List Sample) : Prop where
  mem_ahead : ∀ sample ∈ ahead, sample ∈ stream
  mem_waiting : ∀ event ∈ waiting, ∃ sample, event = .pointer sample ∧ Owns stream sample.key
  /-- What was judged of a contact is what the producer has behind it. -/
  behind : ∀ key, Owns stream key →
    samplesOf key judged ++ samplesOf key ahead = samplesOf key stream
  /-- What passed of a contact was delivered, or the producer is left with it. -/
  passed : ∀ key, Owns stream key →
    samplesOf key delivered ++ samplesOf key (Event.samples waiting) =
      samplesOf key (guard.run judged).2

section Supplies

variable {guard : Guard} {stream ahead judged delivered samples : List Sample}
variable {waiting entered : List Event} {sample : Sample} {key : Key}

theorem samplesOf_eq_nil (h : ∀ sample ∈ samples, sample.key ≠ key) :
    samplesOf key samples = [] := by
  unfold samplesOf
  rw [List.filter_eq_nil_iff]
  intro sample hmem
  rw [beq_iff_eq]
  exact h sample hmem

theorem samplesOf_of_not_owns (hkey : Owns stream key)
    (h : ∀ sample ∈ samples, ¬Owns stream sample.key) : samplesOf key samples = [] :=
  samplesOf_eq_nil fun sample hmem heq => h sample hmem (heq ▸ hkey)

theorem snd_run_concat (guard : Guard) (judged : List Sample) (sample : Sample) :
    (guard.run (judged ++ [sample])).2 =
      (guard.run judged).2 ++ ((guard.run judged).1.judge sample).2.samples := by
  rw [Guard.run_append, Guard.run_singleton]

theorem supplies_judge (h : Supplies guard stream (sample :: ahead) [] judged delivered) :
    Supplies guard stream ahead
      (((guard.run judged).1.judge sample).2.samples.map .pointer) (judged ++ [sample])
      delivered := by
  constructor
  case mem_ahead =>
    intro last hmem
    exact h.mem_ahead last (List.mem_cons_of_mem _ hmem)
  case mem_waiting =>
    intro event hmem
    obtain ⟨passed, hpassed, rfl⟩ := List.mem_map.1 hmem
    refine ⟨passed, rfl, sample, h.mem_ahead sample List.mem_cons_self, ?_⟩
    exact (Guard.key_of_mem_judge hpassed).symm
  case behind =>
    intro key hkey
    rw [samplesOf_append, List.append_assoc, ← samplesOf_append]
    exact h.behind key hkey
  case passed =>
    intro key hkey
    rw [snd_run_concat, samplesOf_append, ← h.passed key hkey, Event.samples_map_pointer,
      List.append_assoc]
    rfl

theorem supplies_judge_other (h : Supplies guard stream ahead waiting judged delivered)
    (hother : ¬Owns stream sample.key) :
    Supplies guard stream ahead waiting (judged ++ [sample]) delivered := by
  constructor
  case mem_ahead => exact h.mem_ahead
  case mem_waiting => exact h.mem_waiting
  case behind =>
    intro key hkey
    have hsample : samplesOf key [sample] = [] :=
      samplesOf_of_not_owns hkey (by simpa using hother)
    rw [samplesOf_append, hsample, List.append_nil]
    exact h.behind key hkey
  case passed =>
    intro key hkey
    have hpassed : samplesOf key ((guard.run judged).1.judge sample).2.samples = [] := by
      apply samplesOf_of_not_owns hkey
      intro passed hmem
      rw [Guard.key_of_mem_judge hmem]
      exact hother
    rw [snd_run_concat, samplesOf_append, hpassed, List.append_nil]
    exact h.passed key hkey

theorem supplies_put (h : Supplies guard stream ahead (entered ++ waiting) judged delivered) :
    Supplies guard stream ahead waiting judged (delivered ++ Event.samples entered) := by
  constructor
  case mem_ahead => exact h.mem_ahead
  case mem_waiting =>
    intro event hmem
    exact h.mem_waiting event (List.mem_append_right _ hmem)
  case behind => exact h.behind
  case passed =>
    intro key hkey
    rw [samplesOf_append, List.append_assoc, ← samplesOf_append, ← Event.samples_append]
    exact h.passed key hkey

theorem supplies_put_other (h : Supplies guard stream ahead waiting judged delivered)
    (hother : ∀ sample ∈ samples, ¬Owns stream sample.key) :
    Supplies guard stream ahead waiting judged (delivered ++ samples) := by
  constructor
  case mem_ahead => exact h.mem_ahead
  case mem_waiting => exact h.mem_waiting
  case behind => exact h.behind
  case passed =>
    intro key hkey
    rw [samplesOf_append, samplesOf_of_not_owns hkey hother, List.append_nil]
    exact h.passed key hkey

end Supplies

structure Shared (ι : Type) where
  inbox : Inbox
  /-- The samples that each producer has yet to deliver. -/
  ahead : ι → List Sample
  /-- What each producer still has to put in of the sample that it delivers. -/
  waiting : ι → List Event
  /-- What the consumer has taken. -/
  taken : List Event

/--
What happens next. A delivery takes one turn, or several with others between them.
-/
inductive Turn (ι : Type) where
  | push (producer : ι)
  | judge (producer : ι)
  | enqueue (producer : ι)
  | poll
  deriving DecidableEq, Repr

namespace Shared

variable {ι : Type}

def start (inbox : Inbox) (streams : ι → List Sample) : Shared ι :=
  { inbox, ahead := streams, waiting := fun _ => [], taken := [] }

def IsDone (shared : Shared ι) : Prop :=
  ∀ producer, shared.ahead producer = [] ∧ shared.waiting producer = []

def KeepApart (streams : ι → List Sample) : Prop :=
  ∀ producer other key, Owns (streams producer) key → Owns (streams other) key → producer = other

structure Agrees (shared other : Shared ι) : Prop where
  guard : shared.inbox.guard = other.inbox.guard
  rejected : shared.inbox.tally.rejected = other.inbox.tally.rejected
  implicitReleases : shared.inbox.tally.implicitReleases = other.inbox.tally.implicitReleases

def poll (shared : Shared ι) : Shared ι :=
  let (event?, inbox) := shared.inbox.take?
  { shared with inbox, taken := shared.taken ++ event?.toList }

variable [DecidableEq ι]

def push (shared : Shared ι) (producer : ι) : Shared ι :=
  match shared.waiting producer, shared.ahead producer with
  | [], sample :: samples =>
    let (inbox, delivery) := shared.inbox.push (.pointer sample)
    { shared with
      inbox
      ahead := Function.update shared.ahead producer samples
      waiting := Function.update shared.waiting producer delivery.rest }
  | _, _ => shared

def judge (shared : Shared ι) (producer : ι) : Shared ι :=
  match shared.waiting producer, shared.ahead producer with
  | [], sample :: samples =>
    { shared with
      inbox := shared.inbox.judge sample
      ahead := Function.update shared.ahead producer samples
      waiting :=
        Function.update shared.waiting producer (shared.inbox.arrivals (.pointer sample)) }
  | _, _ => shared

def put (shared : Shared ι) (producer : ι) (events more : List Event) : Shared ι :=
  let (inbox, delivery) := shared.inbox.enqueue events
  { shared with
    inbox
    waiting := Function.update shared.waiting producer (delivery.rest ++ more) }

def enqueue (shared : Shared ι) (producer : ι) : Shared ι :=
  match shared.waiting producer with
  | [] => shared
  | event :: events => shared.put producer [event] events

def turn (shared : Shared ι) : Turn ι → Shared ι
  | .push producer => shared.push producer
  | .judge producer => shared.judge producer
  | .enqueue producer => shared.enqueue producer
  | .poll => shared.poll

def turnAll (shared : Shared ι) (turns : List (Turn ι)) : Shared ι :=
  turns.foldl turn shared

/--
Each delivery is a single turn, and finds room for all that a sample can bring in.
-/
def keepsRoom (shared : Shared ι) : List (Turn ι) → Bool
  | [] => true
  | .push producer :: turns =>
    shared.inbox.hasRoom 2 && (shared.push producer).keepsRoom turns
  | .poll :: turns => shared.poll.keepsRoom turns
  | _ => false

variable {inbox : Inbox} {streams : ι → List Sample} {shared : Shared ι}
variable {judged delivered : List Sample} {producer : ι}

structure Serves (inbox : Inbox) (streams : ι → List Sample) (shared : Shared ι)
    (judged delivered : List Sample) : Prop where
  isOpen : shared.inbox.isOpen = true
  guard : shared.inbox.guard = (inbox.guard.run judged).1
  rejected : shared.inbox.tally.rejected = inbox.tally.rejected +
    UInt64.ofNat ((inbox.guard.verdicts judged).countP Verdict.isRejected)
  implicitReleases : shared.inbox.tally.implicitReleases = inbox.tally.implicitReleases +
    UInt64.ofNat ((inbox.guard.verdicts judged).countP Verdict.isImplicitRelease)
  queue : shared.taken ++ shared.inbox.queue = inbox.queue ++ delivered.map .pointer
  producer : ∀ producer, Supplies inbox.guard (streams producer) (shared.ahead producer)
    (shared.waiting producer) judged delivered
  owned_judged : ∀ sample ∈ judged, ∃ producer, Owns (streams producer) sample.key
  owned_delivered : ∀ sample ∈ delivered, ∃ producer, Owns (streams producer) sample.key

omit [DecidableEq ι] in
theorem serves_start (hopen : inbox.isOpen = true) (streams : ι → List Sample) :
    Serves inbox streams (start inbox streams) [] [] := by
  constructor
  case isOpen => exact hopen
  case rejected => exact (UInt64.add_zero _).symm
  case implicitReleases => exact (UInt64.add_zero _).symm
  case queue => exact (List.append_nil _).symm
  case producer =>
    intro producer
    constructor <;> simp [start, Guard.run, samplesOf, Event.samples]
  all_goals simp [start, Guard.run]

theorem serves_judge (hapart : KeepApart streams)
    (h : Serves inbox streams shared judged delivered) (hwaiting : shared.waiting producer = [])
    {sample : Sample} {samples : List Sample} (hahead : shared.ahead producer = sample :: samples) :
    Serves inbox streams (shared.judge producer) (judged ++ [sample]) delivered := by
  have hsupplies := h.producer producer
  rw [hahead, hwaiting] at hsupplies
  have howns : Owns (streams producer) sample.key :=
    ⟨sample, hsupplies.mem_ahead sample List.mem_cons_self, rfl⟩
  have hverdicts := Guard.verdicts_concat inbox.guard judged sample
  rw [← h.guard] at hverdicts
  unfold judge
  rw [hwaiting, hahead]
  constructor
  case isOpen => exact h.isOpen
  case guard =>
    rw [Guard.run_append, Guard.run_singleton, ← h.guard]
    rfl
  case rejected =>
    rw [hverdicts, List.countP_append, UInt64.ofNat_add, ← UInt64.add_assoc, ← h.rejected,
      ← Ledger.rejected_ofDelivery]
    rfl
  case implicitReleases =>
    rw [hverdicts, List.countP_append, UInt64.ofNat_add, ← UInt64.add_assoc, ← h.implicitReleases,
      ← Ledger.implicitReleases_ofDelivery]
    rfl
  case queue => exact h.queue
  case producer =>
    intro other
    dsimp only
    by_cases hother : other = producer
    . subst hother
      rw [Function.update_self, Function.update_self]
      unfold arrivals
      rw [h.guard]
      exact supplies_judge hsupplies
    . rw [Function.update_of_ne hother, Function.update_of_ne hother]
      apply supplies_judge_other (h.producer other)
      exact fun hkey => hother (hapart other producer _ hkey howns)
  case owned_judged =>
    intro last hmem
    rcases List.mem_append.1 hmem with hmem | hmem
    . exact h.owned_judged last hmem
    . rw [List.mem_singleton.1 hmem]
      exact ⟨producer, howns⟩
  case owned_delivered => exact h.owned_delivered

theorem serves_put (hapart : KeepApart streams)
    (h : Serves inbox streams shared judged delivered) {events more : List Event}
    (hwaiting : shared.waiting producer = events ++ more) :
    ∃ entered, Serves inbox streams (shared.put producer events more) judged
      (delivered ++ entered) := by
  obtain ⟨entered, hevents, hqueue, htally⟩ := enqueue_split h.isOpen events
  obtain ⟨-, hguard, hopen⟩ := queue_enqueue h.isOpen events
  obtain ⟨hrejected, himplicit⟩ := Tally.guarded_foldl shared.inbox.tally entered
  have hsupplies := h.producer producer
  rw [hwaiting, hevents, List.append_assoc] at hsupplies
  have hmem : ∀ event ∈ entered, ∃ sample, event = .pointer sample ∧
      Owns (streams producer) sample.key :=
    fun event hevent => hsupplies.mem_waiting event (List.mem_append_left _ hevent)
  have howns : ∀ sample ∈ Event.samples entered, Owns (streams producer) sample.key := by
    intro sample hsample
    obtain ⟨event, hevent, hof⟩ := List.mem_filterMap.1 hsample
    obtain ⟨last, rfl, howns⟩ := hmem event hevent
    obtain rfl := Option.some.inj hof
    exact howns
  refine ⟨Event.samples entered, ?_⟩
  unfold put
  constructor
  case isOpen => exact hopen.trans h.isOpen
  case guard => exact hguard.trans h.guard
  case rejected =>
    rw [htally, hrejected]
    exact h.rejected
  case implicitReleases =>
    rw [htally, himplicit]
    exact h.implicitReleases
  case queue =>
    rw [hqueue, ← List.append_assoc, h.queue, List.map_append,
      Event.map_pointer_samples fun event hevent => (hmem event hevent).imp fun _ => And.left,
      List.append_assoc]
  case producer =>
    intro other
    dsimp only
    by_cases hother : other = producer
    . subst hother
      rw [Function.update_self]
      exact supplies_put hsupplies
    . rw [Function.update_of_ne hother]
      apply supplies_put_other (h.producer other)
      intro sample hsample hkey
      exact hother (hapart other producer _ hkey (howns sample hsample))
  case owned_judged => exact h.owned_judged
  case owned_delivered =>
    intro sample hsample
    rcases List.mem_append.1 hsample with hsample | hsample
    . exact h.owned_delivered sample hsample
    . exact ⟨producer, howns sample hsample⟩

omit [DecidableEq ι] in
theorem serves_poll (h : Serves inbox streams shared judged delivered) :
    Serves inbox streams shared.poll judged delivered := by
  constructor
  case queue =>
    rw [← h.queue]
    unfold poll take?
    dsimp only
    cases shared.inbox.queue <;> simp
  case isOpen => exact h.isOpen
  case guard => exact h.guard
  case rejected => exact h.rejected
  case implicitReleases => exact h.implicitReleases
  case producer => exact h.producer
  case owned_judged => exact h.owned_judged
  case owned_delivered => exact h.owned_delivered

theorem push_eq_put (hopen : shared.inbox.isOpen = true) (hwaiting : shared.waiting producer = [])
    {sample : Sample} {samples : List Sample} (hahead : shared.ahead producer = sample :: samples) :
    shared.push producer =
      (shared.judge producer).put producer ((shared.judge producer).waiting producer) [] := by
  unfold push put judge
  rw [hwaiting, hahead]
  dsimp only
  rw [Function.update_self, Function.update_idem, List.append_nil,
    push_eq_enqueue_judge hopen sample]

theorem ready_or_idle (shared : Shared ι) (producer : ι) :
    (shared.waiting producer = [] ∧ ∃ sample samples, shared.ahead producer = sample :: samples) ∨
      (shared.push producer = shared ∧ shared.judge producer = shared) := by
  unfold push judge
  cases shared.waiting producer with
  | nil =>
    cases shared.ahead producer with
    | nil => exact Or.inr ⟨rfl, rfl⟩
    | cons sample samples => exact Or.inl ⟨rfl, sample, samples, rfl⟩
  | cons event events => exact Or.inr ⟨rfl, rfl⟩

theorem serves_turn (hapart : KeepApart streams)
    (h : Serves inbox streams shared judged delivered) (turn : Turn ι) :
    ∃ judged delivered, Serves inbox streams (shared.turn turn) judged delivered := by
  cases turn with
  | push producer =>
    rcases ready_or_idle shared producer with ⟨hwaiting, sample, samples, hahead⟩ | ⟨hidle, -⟩
    . have hjudged := serves_judge hapart h hwaiting hahead
      obtain ⟨entered, hput⟩ := serves_put hapart hjudged (List.append_nil _).symm
      rw [← push_eq_put h.isOpen hwaiting hahead] at hput
      exact ⟨_, _, hput⟩
    . have hturn : shared.turn (.push producer) = shared := hidle
      rw [hturn]
      exact ⟨judged, delivered, h⟩
  | judge producer =>
    rcases ready_or_idle shared producer with ⟨hwaiting, sample, samples, hahead⟩ | ⟨-, hidle⟩
    . exact ⟨_, _, serves_judge hapart h hwaiting hahead⟩
    . have hturn : shared.turn (.judge producer) = shared := hidle
      rw [hturn]
      exact ⟨judged, delivered, h⟩
  | enqueue producer =>
    change ∃ judged delivered, Serves inbox streams (shared.enqueue producer) judged delivered
    unfold enqueue
    split
    . exact ⟨judged, delivered, h⟩
    . next event events hwaiting =>
      obtain ⟨entered, hput⟩ := @serves_put _ _ _ _ _ _ _ _ hapart h [event] events hwaiting
      exact ⟨_, _, hput⟩
  | poll => exact ⟨judged, delivered, serves_poll h⟩

theorem serves_turnAll (hapart : KeepApart streams)
    (h : Serves inbox streams shared judged delivered) (turns : List (Turn ι)) :
    ∃ judged delivered, Serves inbox streams (shared.turnAll turns) judged delivered := by
  induction turns generalizing shared judged delivered with
  | nil => exact ⟨judged, delivered, h⟩
  | cons turn turns ih =>
    obtain ⟨judged, delivered, hturn⟩ := serves_turn hapart h turn
    exact ih hturn

omit [DecidableEq ι] in
theorem samplesOf_of_isDone (h : Serves inbox streams shared judged delivered)
    (hdone : shared.IsDone) {key : Key} (howns : Owns (streams producer) key) :
    samplesOf key judged = samplesOf key (streams producer) ∧
      ∀ guard : Guard, guard.find? key = inbox.guard.find? key →
        samplesOf key delivered = (guard.run (samplesOf key (streams producer))).2 := by
  obtain ⟨hahead, hwaiting⟩ := hdone producer
  have hbehind := (h.producer producer).behind key howns
  have hpassed := (h.producer producer).passed key howns
  rw [hahead] at hbehind
  rw [hwaiting] at hpassed
  have hjudged : samplesOf key judged = samplesOf key (streams producer) :=
    (List.append_nil _).symm.trans hbehind
  refine ⟨hjudged, ?_⟩
  intro guard hguard
  rw [← hjudged, ← (Guard.apart_run hguard.symm judged).2.1, ← hpassed]
  exact (List.append_nil _).symm

omit [DecidableEq ι] in
theorem agrees_of_isDone {other : Shared ι} {judged' delivered' : List Sample}
    (h : Serves inbox streams shared judged delivered) (hdone : shared.IsDone)
    (hother : Serves inbox streams other judged' delivered') (hdone' : other.IsDone) :
    shared.Agrees other := by
  have hsame : ∀ key, samplesOf key judged = samplesOf key judged' := by
    intro key
    by_cases howned : ∃ producer, Owns (streams producer) key
    . obtain ⟨producer, howns⟩ := howned
      rw [(samplesOf_of_isDone h hdone howns).1, (samplesOf_of_isDone hother hdone' howns).1]
    . have hnone : samplesOf key judged = [] :=
        samplesOf_eq_nil fun sample hmem hkey => howned (hkey ▸ h.owned_judged sample hmem)
      have hnone' : samplesOf key judged' = [] :=
        samplesOf_eq_nil fun sample hmem hkey => howned (hkey ▸ hother.owned_judged sample hmem)
      rw [hnone, hnone']
  obtain ⟨hverdicts, hguard⟩ := Guard.perm_verdicts inbox.guard hsame
  constructor
  . rw [h.guard, hother.guard, hguard]
  . rw [h.rejected, hother.rejected, hverdicts.countP_eq]
  . rw [h.implicitReleases, hother.implicitReleases, hverdicts.countP_eq]

theorem push_of_hasRoom (hwaiting : ∀ producer, shared.waiting producer = [])
    (hroom : shared.inbox.hasRoom 2 = true) (producer other : ι) :
    (shared.push producer).waiting other = [] ∧
      (shared.push producer).ahead other =
        if other = producer then (shared.ahead other).tail else shared.ahead other := by
  unfold push
  rw [hwaiting producer]
  cases hahead : shared.ahead producer with
  | nil =>
    dsimp only
    refine ⟨hwaiting other, ?_⟩
    split
    . next hother => rw [hother, hahead, List.tail_nil]
    . rfl
  | cons sample samples =>
    dsimp only
    rw [rest_push_of_hasRoom hroom]
    by_cases hother : other = producer
    . subst hother
      rw [Function.update_self, Function.update_self, if_pos rfl, hahead, List.tail_cons]
      exact ⟨rfl, rfl⟩
    . rw [Function.update_of_ne hother, Function.update_of_ne hother, if_neg hother]
      exact ⟨hwaiting other, rfl⟩

theorem isDone_of_keepsRoom (hwaiting : ∀ producer, shared.waiting producer = [])
    {turns : List (Turn ι)} (hroom : shared.keepsRoom turns = true)
    (hcount : ∀ producer, (shared.ahead producer).length ≤ turns.count (.push producer)) :
    (shared.turnAll turns).IsDone := by
  induction turns generalizing shared with
  | nil =>
    intro producer
    exact ⟨List.eq_nil_of_length_eq_zero (Nat.le_zero.1 (hcount producer)), hwaiting producer⟩
  | cons turn turns ih =>
    cases turn with
    | push producer =>
      unfold keepsRoom at hroom
      rw [Bool.and_eq_true] at hroom
      have hpush := push_of_hasRoom hwaiting hroom.1 producer
      apply ih (fun other => (hpush other).1) hroom.2
      intro other
      have hother := hcount other
      rw [(hpush other).2]
      by_cases hproducer : other = producer
      . subst hproducer
        rw [List.count_cons_self] at hother
        rw [if_pos rfl, List.length_tail]
        omega
      . rw [List.count_cons_of_ne (by simpa using Ne.symm hproducer)] at hother
        rw [if_neg hproducer]
        exact hother
    | poll =>
      change (shared.poll.turnAll turns).IsDone
      apply @ih shared.poll hwaiting hroom
      intro producer
      have hproducer := hcount producer
      rw [List.count_cons_of_ne (by simp)] at hproducer
      exact hproducer
    | judge => contradiction
    | enqueue => contradiction

/--
Once all producers are done, what came in of each contact is what a guard lets through that is given
the samples of its producer alone, and nothing else has come in. The guard knows the same contacts
and has counted the same, whatever the turns were. With room kept for each delivery, all are done.
-/
theorem delivers_turnAll (hopen : inbox.isOpen = true) (hapart : KeepApart streams) :
    (∀ turns, ((start inbox streams).turnAll turns).IsDone →
      let last := (start inbox streams).turnAll turns
      ∃ delivered : List Sample,
        last.taken ++ last.inbox.queue = inbox.queue ++ delivered.map .pointer ∧
        (∀ producer key, Owns (streams producer) key →
          ∀ guard : Guard, guard.find? key = inbox.guard.find? key →
            samplesOf key delivered = (guard.run (samplesOf key (streams producer))).2) ∧
        ∀ sample ∈ delivered, ∃ producer, Owns (streams producer) sample.key) ∧
    (∀ turns others, ((start inbox streams).turnAll turns).IsDone →
      ((start inbox streams).turnAll others).IsDone →
      ((start inbox streams).turnAll turns).Agrees ((start inbox streams).turnAll others)) ∧
    ∀ turns, (start inbox streams).keepsRoom turns = true →
      (∀ producer, (streams producer).length ≤ turns.count (.push producer)) →
      ((start inbox streams).turnAll turns).IsDone := by
  have hserves := serves_turnAll hapart (serves_start hopen streams)
  refine ⟨?_, ?_, ?_⟩
  . intro turns hdone
    obtain ⟨judged, delivered, h⟩ := hserves turns
    refine ⟨delivered, h.queue, ?_, h.owned_delivered⟩
    intro producer key howns
    exact (samplesOf_of_isDone h hdone howns).2
  . intro turns others hdone hdone'
    obtain ⟨judged, delivered, h⟩ := hserves turns
    obtain ⟨judged', delivered', hother⟩ := hserves others
    exact agrees_of_isDone h hdone hother hdone'
  . intro turns hroom hcount
    exact isDone_of_keepsRoom (fun _ => rfl) hroom hcount

/--
One producer lets a contact go down twice, while the other one moves a contact that is not down.
-/
theorem delivers_turnAll_crossed :
    let first : Sample := ⟨.down, 1, 0, 0, 1, 0, .touch⟩
    let second : Sample := ⟨.move, 2, 0, 0, 1, 0, .touch⟩
    let streams (producer : Bool) : List Sample :=
      if producer then [first, first, first.lifted 9] else [second, { second with phase := .down }]
    let turns : List (Turn Bool) :=
      [.push true, .push false, .push true, .poll, .push false, .push true]
    let others : List (Turn Bool) :=
      [.judge false, .judge true, .judge false, .enqueue true, .poll, .judge true, .enqueue true,
        .enqueue false, .enqueue true, .push true]
    let last := (start .new streams).turnAll turns
    last.Agrees ((start .new streams).turnAll others) ∧
      last.inbox.tally.rejected = 1 ∧ last.inbox.tally.implicitReleases = 1 := by
  intro first second streams turns others last
  have hkeys : ∀ producer other, ∀ a ∈ streams producer, ∀ b ∈ streams other,
      a.key = b.key → producer = other := by decide +kernel
  have hapart : KeepApart streams := by
    rintro producer other key ⟨a, ha, hakey⟩ ⟨b, hb, hbkey⟩
    exact hkeys producer other a ha b hb (hakey.trans hbkey.symm)
  obtain ⟨-, hsame, hdone⟩ := @delivers_turnAll _ _ .new streams rfl hapart
  have hturns : ((start .new streams).turnAll turns).IsDone := by
    apply hdone turns
    . decide +kernel
    . decide
  have hothers : ((start .new streams).turnAll others).IsDone := by
    intro producer
    cases producer <;> decide +kernel
  exact ⟨hsame turns others hturns hothers, by decide +kernel, by decide +kernel⟩

end Shared

end Inbox

end TouchPanel
