import TouchPanel.Proofs.Pointer.Lookup
import TouchPanel.Proofs.Producer.Ledger
import TouchPanel.Proofs.Producer.Relaying

/-!
This module contains what the relay and the guard know of the left button while events of the host
are pulled. Each keeps a record of its own, and a third one can be told from the events alone
(`Host.isDown`). Main statement: `Relay.handles_pullIntakes`. The three agree about every event that
is taken, so what the guard turns away or lifts first can be told from the events.
-/

namespace TouchPanel

namespace Host

/--
Whether an event puts a contact down (`true`) or lifts it (`false`), if it does either. The left
button is the contact of the mouse.
-/
def Event.change? (key : Key) : Event → Option Bool
  | .finger phase f => if (⟨.touch, f.id⟩ : Key) = key then phase.change? else none
  | .button isPressed .left .. => if (⟨.mouse, 0⟩ : Key) = key then some isPressed else none
  | _ => none

/--
A contact is down after events if the last of them that put it down or lifted it put it down.
-/
def isDown (key : Key) (events : List Event) : Bool :=
  (events.filterMap (Event.change? key)).getLast? == some true

namespace Event

/--
After other events, the event releases the left button while it is not held, or it is the motion or
the lift of a finger that is not down.
-/
def isStray (past : List Event) : Event → Bool
  | .button false .left .. => !isDown ⟨.mouse, 0⟩ past
  | .finger .move f | .finger .up f => !isDown ⟨.touch, f.id⟩ past
  | _ => false

/--
After other events, the event presses the left button while it is held, or a finger goes down that
is down.
-/
def isRepeated (past : List Event) : Event → Bool
  | .button true .left .. => isDown ⟨.mouse, 0⟩ past
  | .finger .down f => isDown ⟨.touch, f.id⟩ past
  | _ => false

end Event

theorem isDown_concat (key : Key) (events : List Event) (event : Event) :
    isDown key (events ++ [event]) = (event.change? key).getD (isDown key events) := by
  unfold isDown
  rw [List.filterMap_append]
  cases hchange : event.change? key with
  | none =>
    rw [List.filterMap_cons_none hchange, List.filterMap_nil, List.append_nil]
    rfl
  | some isPut =>
    rw [List.filterMap_cons_some hchange, List.filterMap_nil, List.getLast?_concat]
    cases isPut <;> rfl

end Host

namespace Guard

variable {guard : Guard}

theorem screenAll_pointer (guard : Guard) (sample : Sample) :
    guard.screenAll [.pointer sample] =
      ((guard.judge sample).1,
        (Verdict.of (guard.find? sample.key) sample).samples.map .pointer) := by
  rw [screenAll_singleton, ← snd_judge]
  rfl

theorem screenAll_move {sample : Sample} (hdown : guard.isDown sample.key = true)
    (hphase : sample.phase = .move) :
    (guard.screenAll [.pointer sample]).2 = [.pointer sample] := by
  obtain ⟨last, hlast⟩ := Option.isSome_iff_exists.1 hdown
  rw [screenAll_pointer, hlast]
  unfold Verdict.of
  rw [hphase]
  rfl

theorem screenAll_down {sample : Sample} (hdown : guard.isDown sample.key = true)
    (hphase : sample.phase = .down) :
    ∃ release : Sample, release.key = sample.key ∧ release.phase = .up ∧
      (guard.screenAll [.pointer sample]).2 = [.pointer release, .pointer sample] := by
  obtain ⟨last, hlast⟩ := Option.isSome_iff_exists.1 hdown
  refine ⟨last.lifted sample.time, ?_, rfl, ?_⟩
  . rw [Sample.key_lifted]
    exact key_of_find? hlast
  . rw [screenAll_pointer, hlast]
    unfold Verdict.of
    rw [hphase]
    rfl

end Guard

namespace Ledger

def ofOption (guard : Guard) : Option Event → Ledger
  | some event => ofDelivery guard event
  | none => .empty

theorem guarded_ofDelivery (guard : Guard) (sample : Sample) :
    (ofDelivery guard (.pointer sample)).rejected =
        (if sample.phase != .down && !guard.isDown sample.key then 1 else 0) ∧
      (ofDelivery guard (.pointer sample)).implicitReleases =
        if sample.phase == .down && guard.isDown sample.key then 1 else 0 := by
  unfold ofDelivery Guard.isDown
  dsimp only
  rw [Guard.snd_judge]
  unfold Verdict.of
  cases sample.phase <;> cases guard.find? sample.key <;> exact ⟨rfl, rfl⟩

end Ledger

namespace Inbox

def pushOption (inbox : Inbox) : Option Event → Inbox × Delivery
  | some event => inbox.push event
  | none => (inbox, .done)

theorem pushOption_of_hasRoom {inbox : Inbox} (hopen : inbox.isOpen = true)
    (hroom : inbox.hasRoom 2 = true) (event? : Option Event) :
    ∃ next, inbox.pushOption event? = (next, .done) ∧
      next.isOpen = true ∧
      next.guard = (inbox.guard.screenAll event?.toList).1 ∧
      next.queue = inbox.queue ++ (inbox.guard.screenAll event?.toList).2 ∧
      next.tally.rejected = inbox.tally.rejected +
        UInt64.ofNat (Ledger.ofOption inbox.guard event?).rejected ∧
      next.tally.implicitReleases = inbox.tally.implicitReleases +
        UInt64.ofNat (Ledger.ofOption inbox.guard event?).implicitReleases := by
  cases event? with
  | none =>
    exact ⟨inbox, rfl, hopen, rfl, (List.append_nil _).symm, (UInt64.add_zero _).symm,
      (UInt64.add_zero _).symm⟩
  | some event =>
    obtain ⟨hdone, hqueue, hguard, hstill⟩ := push_of_hasRoom hopen hroom event
    obtain ⟨hrejected, himplicit⟩ := guarded_push hdone
    rw [Option.toList_some, Guard.screenAll_singleton]
    exact ⟨(inbox.push event).1, Prod.ext rfl hdone, hstill, hguard, hqueue, hrejected, himplicit⟩

end Inbox

/--
An event of the host that is taken from the pump: the events that were taken before it since the
last start, what the relay knew of the left button, and the inbox before the event and after it.
-/
structure Intake where
  past : List Host.Event
  event : Host.Event
  isLeftHeld : Bool
  before : Inbox
  after : Inbox

namespace Intake

def isStray (intake : Intake) : Bool :=
  intake.event.isStray intake.past

def isRepeated (intake : Intake) : Bool :=
  intake.event.isRepeated intake.past

/--
The relay and the guard agree about the left button before an event is taken. With the button held,
motion comes in as a move of the mouse, and a press lifts the mouse first. The guard turns away
stray events and no others, and adds a release for each event that is repeated and for no other.
-/
structure IsHandled (intake : Intake) : Prop where
  agrees : intake.isLeftHeld = intake.before.guard.isDown ⟨.mouse, 0⟩
  told : intake.isLeftHeld = Host.isDown ⟨.mouse, 0⟩ intake.past
  moves : ∀ x y time, intake.event = .motion x y time → intake.isLeftHeld = true →
    ∃ move : Sample, move.key = ⟨.mouse, 0⟩ ∧ move.phase = .move ∧
      intake.after.queue = intake.before.queue ++ [.pointer move]
  releases : ∀ x y time, intake.event = .button true .left x y time → intake.isLeftHeld = true →
    ∃ release down : Sample, release.key = ⟨.mouse, 0⟩ ∧ release.phase = .up ∧
      down.key = ⟨.mouse, 0⟩ ∧ down.phase = .down ∧
      intake.after.queue = intake.before.queue ++ [.pointer release, .pointer down]
  rejected : intake.after.tally.rejected =
    intake.before.tally.rejected + if intake.isStray then 1 else 0
  implicitReleases : intake.after.tally.implicitReleases =
    intake.before.tally.implicitReleases + if intake.isRepeated then 1 else 0

end Intake

namespace Relay

def pullIntakes (reference : Reference) (now : UInt64) (past : List Host.Event)
    (isLeftHeld : Bool) (inbox : Inbox) : List Host.Event → Pulled × List Intake
  | [] => (⟨isLeftHeld, [], inbox⟩, [])
  | event :: rest =>
    if inbox.hasRoom 2 then
      let (isHeld, converted) := convert reference now isLeftHeld event
      let (next, delivery) := inbox.pushOption converted
      let intake : Intake := { past, event, isLeftHeld, before := inbox, after := next }
      match delivery with
      | .done =>
        let (pulled, intakes) := pullIntakes reference now (past ++ [event]) isHeld next rest
        (pulled, intake :: intakes)
      | _ => (⟨isHeld, rest, next⟩, [intake])
    else
      (⟨isLeftHeld, event :: rest, inbox⟩, [])

def intakes (relay : Relay) (past : List Host.Event) (now : UInt64) (inbox : Inbox) : List Intake :=
  match relay.isAttached, relay.pump with
  | true, some pump =>
    (pullIntakes relay.reference now past relay.isLeftHeld inbox pump.events).2
  | _, _ => []

structure Knows (past : List Host.Event) (isLeftHeld : Bool) (guard : Guard) : Prop where
  isLeftHeld : isLeftHeld = Host.isDown ⟨.mouse, 0⟩ past
  isDown : ∀ key, guard.isDown key = Host.isDown key past

structure Handles (past : List Host.Event) (inbox : Inbox) (events : List Host.Event)
    (pulled : Pulled) (intakes : List Intake) : Prop where
  taken : intakes.map Intake.event ++ pulled.rest = events
  knows : Knows (past ++ intakes.map Intake.event) pulled.isLeftHeld pulled.inbox.guard
  isOpen : pulled.inbox.isOpen = true
  handled : ∀ intake ∈ intakes, intake.IsHandled
  rejected : pulled.inbox.tally.rejected =
    inbox.tally.rejected + UInt64.ofNat (intakes.countP Intake.isStray)
  implicitReleases : pulled.inbox.tally.implicitReleases =
    inbox.tally.implicitReleases + UInt64.ofNat (intakes.countP Intake.isRepeated)

variable {reference : Reference} {now : UInt64} {past : List Host.Event} {isLeftHeld : Bool}
  {inbox : Inbox} {guard : Guard}

theorem fst_pullIntakes (reference : Reference) (now : UInt64) (past : List Host.Event)
    (isLeftHeld : Bool) (inbox : Inbox) (events : List Host.Event) :
    (pullIntakes reference now past isLeftHeld inbox events).1 =
      pullAll reference now isLeftHeld inbox events := by
  induction events generalizing past isLeftHeld inbox with
  | nil => rfl
  | cons event events ih =>
    unfold pullIntakes pullAll
    split
    . cases convert reference now isLeftHeld event with
      | mk isHeld converted =>
        cases converted with
        | none => apply ih
        | some event =>
          dsimp only [Inbox.pushOption]
          cases inbox.push event with
          | mk next delivery =>
            cases delivery with
            | done => apply ih
            | closed => rfl
            | waiting => rfl
    . rfl

theorem knows_empty : Knows [] false .empty := ⟨rfl, fun _ => rfl⟩

/--
What becomes of an event that comes after others: a sample that does to its contact what the event
does, or something without a sample, if the event does nothing to a contact.
-/
inductive Translates (past : List Host.Event) (event : Host.Event) : Option Event → Prop where
  | sample (sample : Sample)
    (hchange : ∀ key, event.change? key = if sample.key = key then sample.phase.change? else none)
    (hstray : event.isStray past = (sample.phase != .down && !Host.isDown sample.key past))
    (hrepeated : event.isRepeated past = (sample.phase == .down && Host.isDown sample.key past)) :
    Translates past event (some (.pointer sample))
  | other (converted : Option Event) (hsample : converted.bind Event.sample? = none)
    (hchange : ∀ key, event.change? key = none)
    (hstray : event.isStray past = false)
    (hrepeated : event.isRepeated past = false) : Translates past event converted

theorem translates_convert (h : isLeftHeld = Host.isDown ⟨.mouse, 0⟩ past) (reference : Reference)
    (now : UInt64) (event : Host.Event) :
    Translates past event (convert reference now isLeftHeld event).2 := by
  cases event with
  | finger phase f =>
    apply Translates.sample
    . exact fun _ => rfl
    . cases phase <;> rfl
    . cases phase <;> rfl
  | button isPressed button =>
    cases button with
    | left =>
      apply Translates.sample
      . cases isPressed <;> exact fun _ => rfl
      . cases isPressed <;> rfl
      . cases isPressed <;> rfl
    | middle | right => cases isPressed <;> exact .other _ rfl (fun _ => rfl) rfl rfl
  | motion =>
    cases isLeftHeld with
    | true =>
      apply Translates.sample
      . exact fun _ => (ite_self none).symm
      . change false = !Host.isDown ⟨.mouse, 0⟩ past
        rw [← h]
        rfl
      . rfl
    | false => exact .other _ rfl (fun _ => rfl) rfl rfl
  | key | other => exact .other _ rfl (fun _ => rfl) rfl rfl

theorem isLeftHeld_convert (h : isLeftHeld = Host.isDown ⟨.mouse, 0⟩ past) (reference : Reference)
    (now : UInt64) (event : Host.Event) :
    (convert reference now isLeftHeld event).1 = Host.isDown ⟨.mouse, 0⟩ (past ++ [event]) := by
  rw [Host.isDown_concat, ← h]
  cases event with
  | finger phase => cases phase <;> rfl
  | button isPressed button => cases button <;> rfl
  | motion => cases isLeftHeld <;> rfl
  | key | other => rfl

theorem isDown_of_translates (h : Knows past isLeftHeld guard) {event : Host.Event}
    {converted : Option Event} (htranslates : Translates past event converted) (key : Key) :
    (guard.screenAll converted.toList).1.isDown key = Host.isDown key (past ++ [event]) := by
  rw [Host.isDown_concat, ← h.isDown]
  cases htranslates with
  | sample sample hchange =>
    rw [Option.toList_some, Guard.screenAll_pointer, Guard.isDown_fst_judge, hchange]
    split <;> rfl
  | other converted hsample hchange =>
    rw [hchange]
    cases converted with
    | none => rfl
    | some event =>
      cases event with
      | pointer => contradiction
      | mouse | key => rfl

theorem guarded_of_translates (h : Knows past isLeftHeld guard) {event : Host.Event}
    {converted : Option Event} (htranslates : Translates past event converted) :
    (Ledger.ofOption guard converted).rejected = (if event.isStray past then 1 else 0) ∧
      (Ledger.ofOption guard converted).implicitReleases =
        if event.isRepeated past then 1 else 0 := by
  cases htranslates with
  | sample sample hchange hstray hrepeated =>
    rw [hstray, hrepeated, ← h.isDown]
    exact Ledger.guarded_ofDelivery guard sample
  | other converted hsample hchange hstray hrepeated =>
    rw [hstray, hrepeated]
    cases converted with
    | none => exact ⟨rfl, rfl⟩
    | some event =>
      cases event with
      | pointer => contradiction
      | mouse | key => exact ⟨rfl, rfl⟩

theorem convert_motion (reference : Reference) (now : UInt64) (x y : Int32) (time : UInt64) :
    ∃ move : Sample, (convert reference now true (.motion x y time)).2 = some (.pointer move) ∧
      move.key = ⟨.mouse, 0⟩ ∧ move.phase = .move := ⟨_, rfl, rfl, rfl⟩

theorem convert_press (reference : Reference) (now : UInt64) (isLeftHeld : Bool) (x y : Int32)
    (time : UInt64) :
    ∃ down : Sample,
      (convert reference now isLeftHeld (.button true .left x y time)).2 = some (.pointer down) ∧
      down.key = ⟨.mouse, 0⟩ ∧ down.phase = .down := ⟨_, rfl, rfl, rfl⟩

theorem pullIntakes_cons (h : Knows past isLeftHeld inbox.guard) (hopen : inbox.isOpen = true)
    (hroom : inbox.hasRoom 2 = true) (reference : Reference) (now : UInt64) (event : Host.Event)
    (events : List Host.Event) :
    ∃ isHeld next,
      let intake : Intake := { past, event, isLeftHeld, before := inbox, after := next }
      let rest := pullIntakes reference now (past ++ [event]) isHeld next events
      pullIntakes reference now past isLeftHeld inbox (event :: events) =
        (rest.1, intake :: rest.2) ∧
      Knows (past ++ [event]) isHeld next.guard ∧
      next.isOpen = true ∧
      intake.IsHandled := by
  have htranslates := translates_convert h.isLeftHeld reference now event
  obtain ⟨next, hpush, hstill, hguard, hqueue, hrejected, himplicit⟩ :=
    Inbox.pushOption_of_hasRoom hopen hroom (convert reference now isLeftHeld event).2
  rw [(guarded_of_translates h htranslates).1] at hrejected
  rw [(guarded_of_translates h htranslates).2] at himplicit
  have hmouse : isLeftHeld = inbox.guard.isDown ⟨.mouse, 0⟩ := by
    rw [h.isDown]
    exact h.isLeftHeld
  refine ⟨(convert reference now isLeftHeld event).1, next, ?_, ⟨?_, ?_⟩, hstill,
    ⟨hmouse, h.isLeftHeld, ?_, ?_, ?_, ?_⟩⟩
  . rw [pullIntakes, if_pos hroom]
    dsimp only
    rw [hpush]
  . exact isLeftHeld_convert h.isLeftHeld reference now event
  . intro key
    rw [hguard]
    exact isDown_of_translates h htranslates key
  . rintro x y time rfl rfl
    obtain ⟨move, hconvert, hkey, hphase⟩ := convert_motion reference now x y time
    rw [← hkey] at hmouse
    rw [hconvert, Option.toList_some, Guard.screenAll_move hmouse.symm hphase] at hqueue
    exact ⟨move, hkey, hphase, hqueue⟩
  . rintro x y time rfl rfl
    obtain ⟨down, hconvert, hkey, hphase⟩ := convert_press reference now true x y time
    rw [← hkey] at hmouse
    obtain ⟨release, hkey', hphase', hpassed⟩ := Guard.screenAll_down hmouse.symm hphase
    rw [hconvert, Option.toList_some, hpassed] at hqueue
    exact ⟨release, down, hkey'.trans hkey, hphase', hkey, hphase, hqueue⟩
  . rw [hrejected]
    unfold Intake.isStray
    dsimp only
    split <;> rfl
  . rw [himplicit]
    unfold Intake.isRepeated
    dsimp only
    split <;> rfl

theorem ofNat_countP_cons {α : Type} (p : α → Bool) (item : α) (items : List α) :
    UInt64.ofNat ((item :: items).countP p) =
      (if p item then 1 else 0) + UInt64.ofNat (items.countP p) := by
  rw [List.countP_cons, UInt64.ofNat_add, UInt64.add_comm]
  split <;> rfl

theorem handles_nil (h : Knows past isLeftHeld inbox.guard) (hopen : inbox.isOpen = true)
    (events : List Host.Event) : Handles past inbox events ⟨isLeftHeld, events, inbox⟩ [] := by
  refine ⟨rfl, ?_, hopen, List.forall_mem_nil _, ?_, ?_⟩
  . rw [List.map_nil, List.append_nil]
    exact h
  . simp
  . simp

theorem handles_pullIntakes (h : Knows past isLeftHeld inbox.guard) (hopen : inbox.isOpen = true)
    (reference : Reference) (now : UInt64) (events : List Host.Event) :
    Handles past inbox events (pullIntakes reference now past isLeftHeld inbox events).1
      (pullIntakes reference now past isLeftHeld inbox events).2 := by
  induction events generalizing past isLeftHeld inbox with
  | nil => exact handles_nil h hopen []
  | cons event events ih =>
    cases hroom : inbox.hasRoom 2 with
    | false =>
      unfold pullIntakes
      rw [hroom, if_neg Bool.false_ne_true]
      exact handles_nil h hopen (event :: events)
    | true =>
      obtain ⟨isHeld, next, hpull, hknows, hstill, hhandled⟩ :=
        pullIntakes_cons h hopen hroom reference now event events
      have hrest := ih hknows hstill
      rw [hpull]
      constructor
      . exact congrArg (event :: ·) hrest.taken
      . rw [List.map_cons, List.append_cons]
        exact hrest.knows
      . exact hrest.isOpen
      . rw [List.forall_mem_cons]
        exact ⟨hhandled, hrest.handled⟩
      . rw [ofNat_countP_cons, ← UInt64.add_assoc, ← hhandled.rejected]
        exact hrest.rejected
      . rw [ofNat_countP_cons, ← UInt64.add_assoc, ← hhandled.implicitReleases]
        exact hrest.implicitReleases

end Relay

end TouchPanel
