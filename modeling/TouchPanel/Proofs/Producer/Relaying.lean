import TouchPanel.Producer.Relay
import TouchPanel.Proofs.Inbox.Screen

/-!
This module contains what a pull takes from the pump of the host, and what it makes of it
(`Relay.conveys_pullAll`): the events that it takes are translated one after another, the guard of
the inbox screens them, and what passes is put in. Each delivery is done at once
(`Relay.pullListing`).

Plain events of the host, such as no mouse contact comes from, are translated to themselves
(`Relay.map_ofEvent_of_isPlain`).
-/

namespace TouchPanel

namespace Host

namespace Event

def untimed : Event → Event
  | .finger phase f => .finger phase { f with time := 0 }
  | .button isPressed pressed x y _ => .button isPressed pressed x y 0
  | .motion x y _ => .motion x y 0
  | .key isPressed scancode _ => .key isPressed scancode 0
  | .other => .other

theorem untimed_ofEvent (event : TouchPanel.Event) :
    (ofEvent event).untimed = ofEvent event.untimed := by
  cases event with
  | pointer => rfl
  | mouse event =>
    obtain ⟨action, x, y, time⟩ := event
    cases action <;> rfl
  | key => rfl

theorem map_untimed_ofEvent (events : List TouchPanel.Event) :
    (events.map ofEvent).map untimed = (events.map TouchPanel.Event.untimed).map ofEvent := by
  rw [List.map_map, List.map_map]
  exact List.map_congr_left fun event _ => untimed_ofEvent event

def phaseOf? (id : UInt32) : Event → Option Phase
  | .finger phase f => if f.id = id then some phase else none
  | _ => none

def IsLeft : Event → Prop
  | .button _ pressed .. => pressed = .left
  | _ => False

def IsWithin : Event → Prop
  | .finger _ f =>
    Binary.clampUnit f.x = f.x ∧ Binary.clampUnit f.y = f.y ∧
      Binary.clampUnit f.pressure = f.pressure
  | _ => True

instance (event : Event) : Decidable event.IsLeft :=
  match event with
  | .button _ pressed .. => inferInstanceAs (Decidable (pressed = .left))
  | .finger .. | .motion .. | .key .. | .other => .isFalse id

instance (event : Event) : Decidable event.IsWithin :=
  match event with
  | .finger _ f =>
    inferInstanceAs (Decidable (Binary.clampUnit f.x = f.x ∧ Binary.clampUnit f.y = f.y ∧
      Binary.clampUnit f.pressure = f.pressure))
  | .button .. | .motion .. | .key .. | .other => .isTrue trivial

end Event

def phasesOf (id : UInt32) (events : List Event) : List Phase :=
  events.filterMap (Event.phaseOf? id)

/--
No mouse contact comes from the events, their fingers make strokes, and nothing has to be clamped.
-/
structure IsPlain (events : List Event) : Prop where
  buttons : ∀ event ∈ events, ¬event.IsLeft
  strokes : ∀ id, Stroke.Follows (phasesOf id events)
  clamped : ∀ event ∈ events, event.IsWithin

end Host

namespace Relay

def convertAll (reference : Reference) (now : UInt64) (isLeftHeld : Bool) :
    List Host.Event → Bool × List Event
  | [] => (isLeftHeld, [])
  | event :: events =>
    let (isLeftHeld, converted) := convert reference now isLeftHeld event
    let (isLeftHeld, more) := convertAll reference now isLeftHeld events
    (isLeftHeld, converted.toList ++ more)

def pullListing (reference : Reference) (now : UInt64) (isLeftHeld : Bool) (inbox : Inbox) :
    List Host.Event → Pulled × List Delivery
  | [] => (⟨isLeftHeld, [], inbox⟩, [])
  | event :: rest =>
    if inbox.hasRoom 2 then
      match convert reference now isLeftHeld event with
      | (isLeftHeld, none) => pullListing reference now isLeftHeld inbox rest
      | (isLeftHeld, some event) =>
        match inbox.push event with
        | (inbox, .done) =>
          let (pulled, deliveries) := pullListing reference now isLeftHeld inbox rest
          (pulled, .done :: deliveries)
        | (inbox, delivery) => (⟨isLeftHeld, rest, inbox⟩, [delivery])
    else
      (⟨isLeftHeld, event :: rest, inbox⟩, [])

structure Conveys (reference : Reference) (now : UInt64) (wasLeftHeld : Bool) (inbox : Inbox)
    (taken : List Host.Event) (pulled : Pulled) : Prop where
  isLeftHeld : pulled.isLeftHeld = (convertAll reference now wasLeftHeld taken).1
  guard : pulled.inbox.guard =
    (inbox.guard.screenAll (convertAll reference now wasLeftHeld taken).2).1
  queue : pulled.inbox.queue =
    inbox.queue ++ (inbox.guard.screenAll (convertAll reference now wasLeftHeld taken).2).2
  isOpen : pulled.inbox.isOpen = true
  ended : pulled.rest = [] ∨ pulled.inbox.hasRoom 2 = false

variable {reference : Reference} {now : UInt64} {isLeftHeld : Bool} {inbox : Inbox}

theorem convertAll_cons (reference : Reference) (now : UInt64) (isLeftHeld : Bool)
    (event : Host.Event) (events : List Host.Event) :
    convertAll reference now isLeftHeld (event :: events) =
      ((convertAll reference now (convert reference now isLeftHeld event).1 events).1,
        (convert reference now isLeftHeld event).2.toList ++
          (convertAll reference now (convert reference now isLeftHeld event).1 events).2) := rfl

theorem convertAll_append (reference : Reference) (now : UInt64) (isLeftHeld : Bool)
    (events more : List Host.Event) :
    convertAll reference now isLeftHeld (events ++ more) =
      ((convertAll reference now (convertAll reference now isLeftHeld events).1 more).1,
        (convertAll reference now isLeftHeld events).2 ++
          (convertAll reference now (convertAll reference now isLeftHeld events).1 more).2) := by
  induction events generalizing isLeftHeld with
  | nil => rfl
  | cons event events ih => simp [convertAll, ih]

theorem convert_untimed (reference : Reference) (now : UInt64) (isLeftHeld : Bool)
    (event : Host.Event) :
    convert reference 0 isLeftHeld event =
      ((convert reference now isLeftHeld event).1,
        (convert reference now isLeftHeld event).2.map Event.untimed) := by
  cases event with
  | finger | key | other => rfl
  | button isPressed button => cases button <;> rfl
  | motion => cases isLeftHeld <;> rfl

theorem convertAll_untimed (reference : Reference) (now : UInt64) (isLeftHeld : Bool)
    (events : List Host.Event) :
    convertAll reference 0 isLeftHeld events =
      ((convertAll reference now isLeftHeld events).1,
        (convertAll reference now isLeftHeld events).2.map Event.untimed) := by
  induction events generalizing isLeftHeld with
  | nil => rfl
  | cons event events ih =>
    unfold convertAll
    dsimp only
    rw [convert_untimed reference now, ih, List.map_append, Option.toList_map]

theorem fst_pullListing (reference : Reference) (now : UInt64) (isLeftHeld : Bool) (inbox : Inbox)
    (events : List Host.Event) :
    (pullListing reference now isLeftHeld inbox events).1 =
      pullAll reference now isLeftHeld inbox events := by
  induction events generalizing isLeftHeld inbox with
  | nil => rfl
  | cons event events ih =>
    unfold pullListing pullAll
    split
    . cases convert reference now isLeftHeld event with
      | mk isHeld converted =>
        cases converted with
        | none => apply ih
        | some event =>
          dsimp only
          cases inbox.push event with
          | mk next delivery =>
            cases delivery with
            | done => apply ih
            | closed => rfl
            | waiting => rfl
    . rfl

theorem pullListing_cons (reference : Reference) (now : UInt64) (isLeftHeld : Bool)
    (hopen : inbox.isOpen = true) (hroom : inbox.hasRoom 2 = true) (event : Host.Event)
    (events : List Host.Event) :
    let converted := convert reference now isLeftHeld event
    ∃ next : Inbox,
      pullListing reference now isLeftHeld inbox (event :: events) =
        ((pullListing reference now converted.1 next events).1,
          List.replicate converted.2.toList.length .done ++
            (pullListing reference now converted.1 next events).2) ∧
      next.guard = (inbox.guard.screenAll converted.2.toList).1 ∧
      next.queue = inbox.queue ++ (inbox.guard.screenAll converted.2.toList).2 ∧
      next.isOpen = true := by
  dsimp only
  rw [pullListing, if_pos hroom]
  cases convert reference now isLeftHeld event with
  | mk isHeld converted =>
    cases converted with
    | none => exact ⟨inbox, rfl, rfl, (List.append_nil _).symm, hopen⟩
    | some event =>
      obtain ⟨hdone, hqueue, hguard, hstill⟩ := Inbox.push_of_hasRoom hopen hroom event
      dsimp only [Option.toList_some]
      rw [Guard.screenAll_singleton]
      refine ⟨(inbox.push event).1, ?_, hguard, hqueue, hstill⟩
      generalize inbox.push event = pushed at hdone
      obtain ⟨next, delivery⟩ := pushed
      dsimp only at hdone
      subst hdone
      rfl

/--
A pull takes events from the pump in order, as many as there is room for. None of its deliveries
finds the queue full.
-/
theorem conveys_pullAll (hopen : inbox.isOpen = true) (events : List Host.Event) :
    ∃ taken,
      taken ++ (pullAll reference now isLeftHeld inbox events).rest = events ∧
      Conveys reference now isLeftHeld inbox taken
        (pullAll reference now isLeftHeld inbox events) ∧
      (pullListing reference now isLeftHeld inbox events).2 =
        List.replicate (convertAll reference now isLeftHeld taken).2.length .done := by
  rw [← fst_pullListing]
  induction events generalizing isLeftHeld inbox with
  | nil => exact ⟨[], rfl, ⟨rfl, rfl, (List.append_nil _).symm, hopen, Or.inl rfl⟩, rfl⟩
  | cons event events ih =>
    cases hroom : inbox.hasRoom 2 with
    | false =>
      unfold pullListing
      rw [hroom, if_neg Bool.false_ne_true]
      exact ⟨[], rfl, ⟨rfl, rfl, (List.append_nil _).symm, hopen, Or.inr hroom⟩, rfl⟩
    | true =>
      obtain ⟨next, hpull, hguard, hqueue, hstill⟩ :=
        pullListing_cons reference now isLeftHeld hopen hroom event events
      obtain ⟨taken, hrest, hconveys, hdone⟩ := ih hstill
      rw [hpull]
      refine ⟨event :: taken, congrArg (event :: ·) hrest, ?_, ?_⟩
      . constructor
        . exact hconveys.isLeftHeld
        . rw [hconveys.guard, hguard, convertAll_cons, Guard.screenAll_append]
        . rw [hconveys.queue, hqueue, hguard, List.append_assoc, convertAll_cons,
            Guard.screenAll_append]
        . exact hconveys.isOpen
        . exact hconveys.ended
      . rw [hdone, convertAll_cons, List.length_append, List.replicate_append_replicate]

theorem convert_of_plain (reference : Reference) {event : Host.Event} (hbutton : ¬event.IsLeft)
    (hwithin : event.IsWithin) :
    (convert reference 0 false event).1 = false ∧
      (convert reference 0 false event).2.toList.map .ofEvent =
        ([event].filter (· ≠ .other)).map Host.Event.untimed := by
  cases event with
  | finger phase f =>
    obtain ⟨hx, hy, hpressure⟩ := hwithin
    refine ⟨rfl, ?_⟩
    unfold convert Sample.clamped Sample.withPressure
    dsimp only
    rw [hx, hy, hpressure]
    rfl
  | button isPressed button =>
    cases button with
    | left => exact absurd rfl hbutton
    | middle | right => cases isPressed <;> exact ⟨rfl, rfl⟩
  | motion | key | other => exact ⟨rfl, rfl⟩

theorem convertAll_of_plain {events : List Host.Event} (hbuttons : ∀ event ∈ events, ¬event.IsLeft)
    (hwithin : ∀ event ∈ events, event.IsWithin) :
    (convertAll reference 0 false events).2.map .ofEvent =
      (events.filter (· ≠ .other)).map Host.Event.untimed := by
  induction events with
  | nil => rfl
  | cons event events ih =>
    rw [List.forall_mem_cons] at hbuttons hwithin
    obtain ⟨hheld, hevent⟩ := convert_of_plain reference hbuttons.1 hwithin.1
    rw [convertAll_cons, hheld, List.map_append, hevent, ih hbuttons.2 hwithin.2, ← List.map_append,
      ← List.filter_append]
    rfl

theorem ofKey_samples_convert {event : Host.Event} (hbutton : ¬event.IsLeft) (key : Key) :
    Stroke.ofKey key (Event.samples (convert reference 0 false event).2.toList) =
      if key.origin = .touch then (event.phaseOf? key.id).toList else [] := by
  cases event with
  | finger phase f =>
    obtain ⟨origin, id⟩ := key
    have hkey : (⟨.touch, f.id⟩ : Key) = ⟨origin, id⟩ ↔ origin = .touch ∧ f.id = id := by
      rw [Key.mk.injEq, eq_comm]
    change Stroke.ofKey ⟨origin, id⟩ [_] = _
    rw [Stroke.ofKey_singleton]
    change (if (⟨.touch, f.id⟩ : Key) = ⟨origin, id⟩ then [phase] else []) = _
    simp only [hkey, Host.Event.phaseOf?]
    by_cases horigin : origin = .touch <;> by_cases hid : f.id = id <;> simp [horigin, hid]
  | button isPressed button =>
    cases button with
    | left => exact absurd rfl hbutton
    | middle | right => exact (ite_self []).symm
  | motion | key | other => exact (ite_self []).symm

theorem ofKey_samples_convertAll {events : List Host.Event}
    (hbuttons : ∀ event ∈ events, ¬event.IsLeft) (hwithin : ∀ event ∈ events, event.IsWithin)
    (key : Key) :
    Stroke.ofKey key (Event.samples (convertAll reference 0 false events).2) =
      if key.origin = .touch then Host.phasesOf key.id events else [] := by
  induction events with
  | nil => exact (ite_self []).symm
  | cons event events ih =>
    rw [List.forall_mem_cons] at hbuttons hwithin
    obtain ⟨hheld, -⟩ := convert_of_plain reference hbuttons.1 hwithin.1
    rw [convertAll_cons, hheld, Event.samples_append, Stroke.ofKey_append,
      ofKey_samples_convert hbuttons.1, ih hbuttons.2 hwithin.2]
    split
    . unfold Host.phasesOf
      rw [List.filterMap_cons]
      cases event.phaseOf? key.id <;> rfl
    . rfl

/--
Plain events reach the consumer as they are, but for their times and for those that are no input.
-/
theorem map_ofEvent_of_isPlain (reference : Reference) {events : List Host.Event}
    (h : Host.IsPlain events) :
    (Guard.empty.screenAll (convertAll reference 0 false events).2).2.map .ofEvent =
      (events.filter (· ≠ .other)).map Host.Event.untimed := by
  rw [Guard.screenAll_of_strokes]
  . exact convertAll_of_plain h.buttons h.clamped
  . intro key
    rw [ofKey_samples_convertAll h.buttons h.clamped]
    split
    . exact h.strokes key.id
    . rfl

end Relay

end TouchPanel
