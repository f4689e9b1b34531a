import Mathlib.Data.List.Induction
import TouchPanel.Proofs.Inbox.Delivery

/-!
This module contains the ledger of an inbox: which events came in, and how many deliveries they
took. Main statement: `Inbox.posts_push`. A delivery that does not have to wait puts the events of
its entry into the queue, and the tally goes on as the entry says (`Inbox.Posts`).
-/

namespace TouchPanel

inductive Tally.Column where
  | touch
  | mouse
  | keyboard
  deriving DecidableEq, Repr

namespace Tally

def Column.of : Event → Column
  | .pointer sample => if sample.origin = .mouse then mouse else touch
  | .mouse _ => mouse
  | .key _ => keyboard

def number (tally : Tally) : Column → UInt64
  | .touch => tally.touch
  | .mouse => tally.mouse
  | .keyboard => tally.keyboard

theorem number_count (tally : Tally) (event : Event) (column : Column) :
    (tally.count event).number column =
      tally.number column + if Column.of event = column then 1 else 0 := by
  unfold count
  cases event with
  | pointer sample =>
    by_cases horigin : sample.origin = .mouse <;> cases column <;>
      simp [Column.of, number, horigin]
  | mouse => cases column <;> simp [Column.of, number]
  | key => cases column <;> simp [Column.of, number]

theorem total_count (tally : Tally) (event : Event) :
    (tally.count event).total = tally.total + 1 := by
  unfold count
  cases event with
  | pointer sample =>
    dsimp only
    split <;> rfl
  | mouse => rfl
  | key => rfl

theorem guarded_count (tally : Tally) (event : Event) :
    (tally.count event).rejected = tally.rejected ∧
      (tally.count event).implicitReleases = tally.implicitReleases := by
  unfold count
  cases event with
  | pointer sample =>
    dsimp only
    split <;> exact ⟨rfl, rfl⟩
  | mouse => exact ⟨rfl, rfl⟩
  | key => exact ⟨rfl, rfl⟩

theorem guarded_foldl (tally : Tally) (events : List Event) :
    (events.foldl count tally).rejected = tally.rejected ∧
      (events.foldl count tally).implicitReleases = tally.implicitReleases := by
  induction events generalizing tally with
  | nil => exact ⟨rfl, rfl⟩
  | cons event events ih =>
    obtain ⟨hrejected, himplicit⟩ := ih (tally.count event)
    obtain ⟨hrejected', himplicit'⟩ := tally.guarded_count event
    exact ⟨hrejected.trans hrejected', himplicit.trans himplicit'⟩

theorem length_eq_countP (events : List Event) :
    events.length =
      events.countP (Column.of · = .touch) + events.countP (Column.of · = .mouse) +
        events.countP (Column.of · = .keyboard) := by
  induction events with
  | nil => rfl
  | cons event events ih =>
    rw [List.length_cons, List.countP_cons, List.countP_cons, List.countP_cons, ih]
    cases Column.of event <;> simp <;> omega

structure AtMost (tally later : Tally) : Prop where
  total : tally.total ≤ later.total
  column : ∀ column, tally.number column ≤ later.number column
  rejected : tally.rejected ≤ later.rejected
  implicitReleases : tally.implicitReleases ≤ later.implicitReleases

end Tally

/--
What became of some deliveries: how many of them were done, the events that came in by them, and how
often the guard turned a sample away or lifted a contact first. Lifts at a stop come in without a
delivery.
-/
@[ext]
structure Ledger where
  done : Nat
  entered : List Event
  rejected : Nat
  implicitReleases : Nat
  released : Nat
  deriving DecidableEq, Repr

namespace Ledger

def empty : Ledger :=
  { done := 0, entered := [], rejected := 0, implicitReleases := 0, released := 0 }

instance : Append Ledger where
  append ledger more :=
    { done := ledger.done + more.done
      entered := ledger.entered ++ more.entered
      rejected := ledger.rejected + more.rejected
      implicitReleases := ledger.implicitReleases + more.implicitReleases
      released := ledger.released + more.released }

def ofDelivery (guard : Guard) (event : Event) : Ledger :=
  match event with
  | .pointer sample =>
    let verdict := (guard.judge sample).2
    { done := 1
      entered := verdict.samples.map .pointer
      rejected := if verdict matches .rejected _ then 1 else 0
      implicitReleases := if verdict matches .implicitRelease .. then 1 else 0
      released := 0 }
  | other => { done := 1, entered := [other], rejected := 0, implicitReleases := 0, released := 0 }

def ofReleases (releases : List Event) : Ledger :=
  { done := 0, entered := releases, rejected := 0, implicitReleases := 0,
    released := releases.length }

variable (ledger more last : Ledger)

@[simp]
theorem done_append : (ledger ++ more).done = ledger.done + more.done := rfl

@[simp]
theorem entered_append : (ledger ++ more).entered = ledger.entered ++ more.entered := rfl

@[simp]
theorem rejected_append : (ledger ++ more).rejected = ledger.rejected + more.rejected := rfl

@[simp]
theorem implicitReleases_append :
    (ledger ++ more).implicitReleases = ledger.implicitReleases + more.implicitReleases := rfl

@[simp]
theorem released_append : (ledger ++ more).released = ledger.released + more.released := rfl

theorem append_empty : ledger ++ empty = ledger := by
  ext1 <;> simp [empty]

theorem empty_append : empty ++ ledger = ledger := by
  ext1 <;> simp [empty]

theorem append_assoc : ledger ++ more ++ last = ledger ++ (more ++ last) := by
  ext1 <;> simp [Nat.add_assoc]

/--
Each event that came in stands for a delivery, for a lift before a down or for a lift at a stop, and
each delivery brings an event in, unless its sample is turned away.
-/
structure Balanced : Prop where
  balance : ledger.done + ledger.implicitReleases + ledger.released =
    ledger.entered.length + ledger.rejected
  rejected_le : ledger.rejected ≤ ledger.done
  implicitReleases_le : ledger.implicitReleases ≤ ledger.done

structure Tells (tally : Tally) : Prop where
  total : tally.total = UInt64.ofNat ledger.entered.length
  column : ∀ column,
    tally.number column = UInt64.ofNat (ledger.entered.countP (Tally.Column.of · = column))
  rejected : tally.rejected = UInt64.ofNat ledger.rejected
  implicitReleases : tally.implicitReleases = UInt64.ofNat ledger.implicitReleases

variable {ledger more : Ledger} {tally : Tally}

theorem balanced_empty : Balanced empty := ⟨rfl, Nat.le_refl _, Nat.le_refl _⟩

theorem balanced_append (h : Balanced ledger) (hmore : Balanced more) :
    Balanced (ledger ++ more) := by
  have hbalance := h.balance
  have hbalance' := hmore.balance
  have hrejected := h.rejected_le
  have hrejected' := hmore.rejected_le
  have himplicit := h.implicitReleases_le
  have himplicit' := hmore.implicitReleases_le
  constructor
  . simp only [done_append, implicitReleases_append, released_append, entered_append,
      rejected_append, List.length_append]
    omega
  . simp only [rejected_append, done_append]
    omega
  . simp only [implicitReleases_append, done_append]
    omega

theorem balanced_ofDelivery (guard : Guard) (event : Event) :
    Balanced (ofDelivery guard event) := by
  cases event with
  | pointer sample =>
    unfold ofDelivery
    dsimp only
    cases (guard.judge sample).2 <;> constructor <;> simp [Verdict.samples]
  | mouse => exact ⟨rfl, Nat.zero_le _, Nat.zero_le _⟩
  | key => exact ⟨rfl, Nat.zero_le _, Nat.zero_le _⟩

theorem balanced_ofReleases (releases : List Event) : Balanced (ofReleases releases) := by
  constructor <;> simp [ofReleases]

theorem tells_zero : Tells empty .zero := by
  constructor
  . rfl
  . intro column
    cases column <;> rfl
  . rfl
  . rfl

theorem tells_foldl (h : Tells ledger tally) (events : List Event) :
    (events.foldl Tally.count tally).total =
        UInt64.ofNat (ledger.entered ++ events).length ∧
      (∀ column, (events.foldl Tally.count tally).number column =
        UInt64.ofNat ((ledger.entered ++ events).countP (Tally.Column.of · = column))) ∧
      (events.foldl Tally.count tally).rejected = tally.rejected ∧
      (events.foldl Tally.count tally).implicitReleases = tally.implicitReleases := by
  rw [← and_assoc]
  refine ⟨?_, tally.guarded_foldl events⟩
  induction events using List.reverseRecOn with
  | nil =>
    rw [List.append_nil]
    exact ⟨h.total, h.column⟩
  | append_singleton events event ih =>
    obtain ⟨htotal, hcolumn⟩ := ih
    rw [List.foldl_append, List.foldl_cons, List.foldl_nil, ← List.append_assoc]
    constructor
    . have hlength : (ledger.entered ++ events ++ [event]).length =
          (ledger.entered ++ events).length + 1 := List.length_append
      rw [Tally.total_count, htotal, hlength, UInt64.ofNat_add]
      rfl
    . intro column
      have hcount : (ledger.entered ++ events ++ [event]).countP (Tally.Column.of · = column) =
          (ledger.entered ++ events).countP (Tally.Column.of · = column) +
            [event].countP (Tally.Column.of · = column) := List.countP_append
      rw [Tally.number_count, hcolumn, hcount, UInt64.ofNat_add, List.countP_singleton]
      by_cases hevent : Tally.Column.of event = column <;> simp [hevent]

theorem toNat_total_of_tells (h : Tells ledger tally)
    (hsize : ledger.entered.length < UInt64.size) :
    tally.total.toNat = ledger.entered.length := by
  rw [h.total]
  exact UInt64.toNat_ofNat_of_lt hsize

theorem total_eq_of_tells (h : Tells ledger tally) (hsize : ledger.entered.length < UInt64.size) :
    tally.total.toNat = tally.touch.toNat + tally.mouse.toNat + tally.keyboard.toNat := by
  have hnumber : ∀ column, (tally.number column).toNat =
      ledger.entered.countP (Tally.Column.of · = column) := by
    intro column
    rw [h.column]
    exact UInt64.toNat_ofNat_of_lt (Nat.lt_of_le_of_lt List.countP_le_length hsize)
  have htouch := hnumber .touch
  have hmouse := hnumber .mouse
  have hkeyboard := hnumber .keyboard
  unfold Tally.number at htouch hmouse hkeyboard
  rw [toNat_total_of_tells h hsize, htouch, hmouse, hkeyboard]
  exact Tally.length_eq_countP ledger.entered

theorem balance_of_tells (h : Tells ledger tally) (hbalanced : Balanced ledger)
    (hsize : ledger.entered.length < UInt64.size) (hdone : ledger.done < UInt64.size) :
    ledger.done + tally.implicitReleases.toNat + ledger.released =
      tally.total.toNat + tally.rejected.toNat := by
  have hrejected := hbalanced.rejected_le
  have himplicit := hbalanced.implicitReleases_le
  rw [h.implicitReleases, h.rejected, toNat_total_of_tells h hsize,
    UInt64.toNat_ofNat_of_lt' (Nat.lt_of_le_of_lt himplicit hdone),
    UInt64.toNat_ofNat_of_lt' (Nat.lt_of_le_of_lt hrejected hdone)]
  exact hbalanced.balance

theorem ofNat_le_ofNat {n m : Nat} (h : n ≤ m) (hm : m < UInt64.size) :
    UInt64.ofNat n ≤ UInt64.ofNat m := by
  rw [UInt64.le_iff_toNat_le, UInt64.toNat_ofNat_of_lt' (Nat.lt_of_le_of_lt h hm),
    UInt64.toNat_ofNat_of_lt' hm]
  exact h

theorem atMost_of_tells {later : Tally} (h : Tells ledger tally)
    (hlater : Tells (ledger ++ more) later) (hbalanced : Balanced (ledger ++ more))
    (hsize : (ledger ++ more).entered.length < UInt64.size)
    (hdone : (ledger ++ more).done < UInt64.size) :
    tally.AtMost later := by
  constructor
  . rw [h.total, hlater.total]
    apply ofNat_le_ofNat _ hsize
    simp
  . intro column
    rw [h.column, hlater.column]
    apply ofNat_le_ofNat
    . simp
    . exact Nat.lt_of_le_of_lt List.countP_le_length hsize
  . rw [h.rejected, hlater.rejected]
    apply ofNat_le_ofNat
    . simp
    . exact Nat.lt_of_le_of_lt hbalanced.rejected_le hdone
  . rw [h.implicitReleases, hlater.implicitReleases]
    apply ofNat_le_ofNat
    . simp
    . exact Nat.lt_of_le_of_lt hbalanced.implicitReleases_le hdone

end Ledger

namespace Inbox

structure Posts (inbox next : Inbox) (entry : Ledger) : Prop where
  queue : next.queue = inbox.queue ++ entry.entered
  tells : ∀ ledger : Ledger, ledger.Tells inbox.tally → (ledger ++ entry).Tells next.tally
  balanced : entry.Balanced

/--
The entry of one delivery. A delivery to an inbox that is closed leaves none.
-/
def record (inbox : Inbox) (event : Event) : Ledger :=
  if (inbox.push event).2 = .done then .ofDelivery inbox.guard event else .empty

variable {inbox next last : Inbox} {entry more : Ledger}

theorem posts_refl (inbox : Inbox) : Posts inbox inbox .empty := by
  constructor
  . exact (List.append_nil _).symm
  . intro ledger h
    rw [Ledger.append_empty]
    exact h
  . exact Ledger.balanced_empty

theorem posts_trans (h : Posts inbox next entry) (hmore : Posts next last more) :
    Posts inbox last (entry ++ more) := by
  constructor
  . rw [hmore.queue, h.queue, List.append_assoc]
    rfl
  . intro ledger hledger
    rw [← Ledger.append_assoc]
    apply hmore.tells
    apply h.tells ledger hledger
  . exact Ledger.balanced_append h.balanced hmore.balanced

theorem tally_enqueue {events : List Event} (h : (inbox.enqueue events).2 = .done) :
    (inbox.enqueue events).1.tally = events.foldl Tally.count inbox.tally := by
  induction events generalizing inbox with
  | nil => rfl
  | cons event events ih =>
    unfold enqueue at h ⊢
    split at h
    . next hroom =>
      rw [dif_pos hroom, List.foldl_cons]
      exact ih h
    . split at h <;> contradiction

theorem entered_ofDelivery (inbox : Inbox) (event : Event) :
    (Ledger.ofDelivery inbox.guard event).entered = inbox.arrivals event := by
  cases event <;> rfl

def judged (inbox : Inbox) (event : Event) : Tally :=
  { inbox.tally with
    rejected := inbox.tally.rejected +
      UInt64.ofNat (Ledger.ofDelivery inbox.guard event).rejected
    implicitReleases := inbox.tally.implicitReleases +
      UInt64.ofNat (Ledger.ofDelivery inbox.guard event).implicitReleases }

theorem push_eq_enqueue (hopen : inbox.isOpen = true) (event : Event) :
    ∃ guard, inbox.push event =
      { inbox with guard, tally := inbox.judged event }.enqueue (inbox.arrivals event) := by
  cases event with
  | pointer sample =>
    refine ⟨(inbox.guard.judge sample).1, ?_⟩
    unfold push judged arrivals Ledger.ofDelivery
    rw [hopen]
    dsimp only
    cases (inbox.guard.judge sample).2 <;> simp
  | mouse event =>
    have hjudged : inbox.judged (.mouse event) = inbox.tally := by
      simp [judged, Ledger.ofDelivery]
    rw [hjudged]
    exact ⟨inbox.guard, (push_other hopen rfl).1⟩
  | key event =>
    have hjudged : inbox.judged (.key event) = inbox.tally := by
      simp [judged, Ledger.ofDelivery]
    rw [hjudged]
    exact ⟨inbox.guard, (push_other hopen rfl).1⟩

theorem isOpen_of_done {event : Event} (h : (inbox.push event).2 = .done) :
    inbox.isOpen = true := by
  by_contra hclosed
  unfold push at h
  rw [Bool.not_eq_true] at hclosed
  rw [hclosed] at h
  contradiction

theorem tally_push {event : Event} (h : (inbox.push event).2 = .done) :
    (inbox.push event).1.tally =
      (inbox.arrivals event).foldl Tally.count (inbox.judged event) := by
  obtain ⟨guard, hpush⟩ := push_eq_enqueue (isOpen_of_done h) event
  rw [hpush] at h ⊢
  exact tally_enqueue h

theorem tells_push {event : Event} (h : (inbox.push event).2 = .done) {ledger : Ledger}
    (hledger : ledger.Tells inbox.tally) :
    (ledger ++ .ofDelivery inbox.guard event).Tells (inbox.push event).1.tally := by
  -- The judgement comes first: it changes none of the numbers of events.
  have hjudged : Ledger.Tells
      { ledger with
        rejected := ledger.rejected + (Ledger.ofDelivery inbox.guard event).rejected
        implicitReleases := ledger.implicitReleases +
          (Ledger.ofDelivery inbox.guard event).implicitReleases }
      (inbox.judged event) := by
    constructor
    . exact hledger.total
    . intro column
      rw [← hledger.column]
      cases column <;> rfl
    . rw [UInt64.ofNat_add, ← hledger.rejected]
      rfl
    . rw [UInt64.ofNat_add, ← hledger.implicitReleases]
      rfl
  obtain ⟨htotal, hcolumn, hrejected, himplicit⟩ :=
    Ledger.tells_foldl hjudged (inbox.arrivals event)
  rw [tally_push h]
  constructor
  . rw [Ledger.entered_append, entered_ofDelivery]
    exact htotal
  . rw [Ledger.entered_append, entered_ofDelivery]
    exact hcolumn
  . exact hrejected.trans hjudged.rejected
  . exact himplicit.trans hjudged.implicitReleases

theorem posts_push {event : Event} (h : (inbox.push event).2.rest = []) :
    Posts inbox (inbox.push event).1 (inbox.record event) := by
  unfold record
  rcases inbox.push_cases event with ⟨-, hpush⟩ | ⟨hdone, hgrows⟩ | ⟨-, -, first, rest, hwaiting⟩
  . rw [hpush, if_neg (by simp)]
    exact posts_refl inbox
  . rw [if_pos hdone]
    constructor
    . rw [entered_ofDelivery]
      exact hgrows.queue
    . intro ledger hledger
      exact tells_push hdone hledger
    . exact Ledger.balanced_ofDelivery inbox.guard event
  . rw [hwaiting] at h
    contradiction

theorem guarded_push {event : Event} (h : (inbox.push event).2 = .done) :
    (inbox.push event).1.tally.rejected = inbox.tally.rejected +
        UInt64.ofNat (Ledger.ofDelivery inbox.guard event).rejected ∧
      (inbox.push event).1.tally.implicitReleases = inbox.tally.implicitReleases +
        UInt64.ofNat (Ledger.ofDelivery inbox.guard event).implicitReleases := by
  rw [tally_push h]
  exact (inbox.judged event).guarded_foldl (inbox.arrivals event)

theorem guarded_push_of_accepted {sample : Sample}
    (h : (inbox.push (.pointer sample)).2 = .done)
    (haccepted : (inbox.guard.judge sample).2 = .accepted sample) :
    (inbox.push (.pointer sample)).1.tally.rejected = inbox.tally.rejected ∧
      (inbox.push (.pointer sample)).1.tally.implicitReleases = inbox.tally.implicitReleases := by
  obtain ⟨hrejected, himplicit⟩ := guarded_push h
  unfold Ledger.ofDelivery at hrejected himplicit
  dsimp only at hrejected himplicit
  rw [haccepted] at hrejected himplicit
  exact ⟨hrejected.trans (UInt64.add_zero _), himplicit.trans (UInt64.add_zero _)⟩

theorem tells_releaseAll {ledger : Ledger} (h : ledger.Tells inbox.tally) (now : UInt64) :
    (ledger ++ .ofReleases (inbox.releaseAll now).1).Tells (inbox.releaseAll now).2.tally := by
  obtain ⟨htotal, hcolumn, hrejected, himplicit⟩ :=
    Ledger.tells_foldl h (inbox.releaseAll now).1
  exact ⟨htotal, hcolumn, hrejected.trans h.rejected, himplicit.trans h.implicitReleases⟩

end Inbox

end TouchPanel
