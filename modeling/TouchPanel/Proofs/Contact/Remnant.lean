import TouchPanel.Proofs.Contact.Likeness

/-!
This module contains what the records of a frame leave behind if the frame is lost before it ends.
They leave all that they have said. So if they said nothing new, the tracker goes on as if they had
never come (`Tracker.framesOf_resumed_slotted`, `Tracker.alike_resumed_anonymous`).

That they said nothing new is told slot by slot, from the records that are about the slot
(`Tracker.addressed`).
-/

namespace TouchPanel

open Kernel (Record)
open Kernel.Record (values)

def Kernel.Record.ofGroup (records : List Record) (index : Nat) : List Record :=
  (records.zipIdx.filter fun (_, place) =>
    contactCount (records.take place) == index).map Prod.fst

/--
Records say nothing new of a contact as a frame leaves it: they end where it is, and name no other
contact. One that is not down may come and go.
-/
structure Contact.IsRestatedBy (protocol : Protocol) (contact : Contact) (records : List Record) :
    Prop where
  place : (contact.overridden records).place = contact.place
  ids_of_isDown : protocol = .slotted → contact.isDown = true →
    ∀ id ∈ values records Kernel.Axis.trackingId, id = contact.trackingId
  ids_of_isUp : protocol = .slotted → contact.isDown = false →
    ∀ id, (values records Kernel.Axis.trackingId).getLast? = some id → id = Kernel.noTracking

namespace Slot

variable {slot heard : Slot} {records : List Record}

theorem alike_of_tells (hslot : Fresh slot) (h : Tells slot records heard)
    (hrestated : slot.contact.IsRestatedBy .slotted records) :
    Alike .slotted slot heard.forget := by
  have hdown : heard.contact.isDown = slot.contact.isDown := by
    rw [h.isDown]
    cases hslotDown : slot.contact.isDown with
    | false => rfl
    | true =>
      rw [Contact.replacement?_eq_none (hslot.isNamed hslotDown)
        (hrestated.ids_of_isDown rfl hslotDown)]
      rfl
  have howed : heard.owed.map Contact.place = none := by
    rw [h.owed]
    split
    . next hslotDown =>
      rw [Contact.replacement?_eq_none (hslot.isNamed hslotDown)
        (hrestated.ids_of_isDown rfl hslotDown)]
      rfl
    . rfl
  have hactive : heard.contact.isActive = slot.contact.isActive := by
    rw [h.isActive]
    cases hlast : (values records Kernel.Axis.trackingId).getLast? with
    | none => rfl
    | some id =>
      rw [hslot.isActive]
      cases hslotDown : slot.contact.isDown with
      | false =>
        rw [hrestated.ids_of_isUp rfl hslotDown id hlast]
        rfl
      | true =>
        rw [hrestated.ids_of_isDown rfl hslotDown id (List.mem_of_getLast? hlast)]
        simpa using hslot.isNamed hslotDown
  unfold forget
  constructor
  . exact h.place.trans hrestated.place
  . exact hdown
  . rw [howed, hslot.owed]
    rfl
  . exact fun _ => hactive
  . intro _ htouching
    apply h.trackingId
    rw [hdown, ← hslot.isActive]
    exact htouching
  . nofun
  . nofun

end Slot

namespace Tracker

def addressed (tracker : Tracker) (records : List Record) (index : Nat) : List Record :=
  match tracker.protocol with
  | .slotted => given tracker.slots.length tracker.current records index
  | .anonymous => Record.ofGroup records index
  | .single => records

def IsRestatedBy (tracker : Tracker) (records : List Record) : Prop :=
  ∀ (index : Nat) (contact : Contact), tracker.contacts[index]? = some contact →
    contact.IsRestatedBy tracker.protocol (tracker.addressed records index)

def resumed (tracker : Tracker) : Tracker := { tracker.resetGroups with isDropped := false }

/--
Records with which a device can go on: one with slots names the slot first.
-/
def Resumes (protocol : Protocol) (records : List Record) : Prop :=
  protocol = .slotted →
    ∃ first rest, records = first :: rest ∧ (first.axis? Kernel.Axis.slot).isSome

variable {start tracker : Tracker} {records : List Record} {record : Record}

theorem isRestatedBy_iff : tracker.IsRestatedBy records ↔
    ∀ (index : Nat) (slot : Slot), tracker.slots[index]? = some slot →
      slot.contact.IsRestatedBy tracker.protocol (tracker.addressed records index) := by
  unfold IsRestatedBy contacts
  constructor
  . intro h index slot hslot
    apply h index
    rw [List.getElem?_map, hslot]
    rfl
  . intro h index contact hcontact
    rw [List.getElem?_map] at hcontact
    obtain ⟨slot, hslot, rfl⟩ := Option.map_eq_some_iff.1 hcontact
    exact h index slot hslot

theorem feed_append (tracker : Tracker) (records more : List Record) :
    tracker.feed (records ++ more) = (tracker.feed records).feed more := List.foldl_append

theorem isReport_of_isWithinFrame (h : record.IsWithinFrame) : record.isReport = false := by
  unfold Kernel.Record.isReport
  rw [Bool.and_eq_false_iff, beq_eq_false_iff_ne, beq_eq_false_iff_ne]
  by_cases hkind : record.kind = Kernel.EventType.sync
  . exact Or.inr (h hkind).1
  . exact Or.inl hkind

theorem process_of_sync (hprotocol : tracker.protocol ≠ .anonymous)
    (hkind : record.kind = Kernel.EventType.sync) (hrecord : record.IsWithinFrame) :
    (tracker.process record).1 = tracker := by
  obtain ⟨hreport, hlost⟩ := hrecord hkind
  unfold process onSync onContactReport
  rw [if_pos hkind, if_neg hlost, if_neg hreport, if_neg (not_and_of_not_left _ hprotocol)]
  split <;> rfl

theorem axis?_of_sync (hkind : record.kind = Kernel.EventType.sync) (code : UInt16) :
    record.axis? code = none := by
  unfold Kernel.Record.axis?
  rw [hkind, if_neg]
  exact not_and_of_not_left _ (by decide)

theorem heard_sync (h : Heard start records tracker)
    (hkind : record.kind = Kernel.EventType.sync) (hrecord : record.IsWithinFrame) :
    Heard start (records ++ [record]) (tracker.process record).1 := by
  have hprotocol : tracker.protocol ≠ .anonymous := by
    rw [h.protocol]
    exact Protocol.noConfusion
  rw [process_of_sync hprotocol hkind hrecord]
  refine ⟨h.protocol, h.isDropped, ?_, h.length, ?_⟩
  . rw [selected_concat, axis?_of_sync hkind]
    exact h.current
  . intro index
    rw [h.slots, given_concat]
    congr 1
    funext slot
    unfold Slot.hearAll
    rw [List.foldl_append]
    split
    . rw [List.foldl_cons, List.foldl_nil, Slot.hear_slotted, axis?_of_sync hkind]
      simp only [axis?_of_sync hkind]
      rfl
    . rfl

theorem heard_cut (hprotocol : start.protocol = .slotted) (hdropped : start.isDropped = false)
    (hrecords : ∀ record ∈ records, record.IsWithinFrame) :
    Heard start records (start.feed records) := by
  induction records using List.reverseRecOn with
  | nil => apply heard_nil hprotocol hdropped
  | append_singleton records record ih =>
    rw [List.forall_mem_append] at hrecords
    have hrecord := hrecords.2 record (List.mem_singleton_self record)
    rw [feed_concat]
    by_cases hkind : record.kind = Kernel.EventType.sync
    . exact heard_sync (ih hrecords.1) hkind hrecord
    . exact heard_process (ih hrecords.1) hkind

theorem getElem?_resumed (tracker : Tracker) (index : Nat) :
    tracker.resumed.slots[index]? = tracker.slots[index]?.map Slot.forget := List.getElem?_map

theorem forall₂_of_getElem? {R : Slot → Slot → Prop} {slots others : List Slot}
    (hlength : slots.length = others.length)
    (h : ∀ (index : Nat) (slot other : Slot), slots[index]? = some slot →
      others[index]? = some other → R slot other) : List.Forall₂ R slots others := by
  apply List.forall₂_of_length_eq_of_get hlength
  intro index hslot hother
  apply h index
  . exact List.getElem?_eq_getElem hslot
  . exact List.getElem?_eq_getElem hother

theorem alike_resumed_slotted (hstart : Rested start)
    (hrecords : ∀ record ∈ records, record.IsWithinFrame)
    (hrestated : start.IsRestatedBy records) :
    Alike { start with current := (start.feed records).current } (start.feed records).resumed := by
  have h := heard_cut hstart.protocol hstart.isDropped hrecords
  refine ⟨h.protocol.trans hstart.protocol.symm, hstart.isDropped.symm, fun _ => rfl, ?_, ?_⟩
  . rw [hstart.protocol]
    exact nofun
  . apply forall₂_of_getElem?
    . exact h.length.symm.trans (List.length_map _).symm
    . intro index slot other hslot hother
      change start.slots[index]? = some slot at hslot
      rw [getElem?_resumed, h.slots, hslot] at hother
      obtain rfl := Option.some.inj hother
      have hslots := isRestatedBy_iff.1 hrestated index slot hslot
      unfold addressed at hslots
      rw [hstart.protocol] at hslots ⊢
      have hfresh := hstart.slots slot (List.mem_of_getElem? hslot)
      exact Slot.alike_of_tells hfresh (Slot.tells_hearAll hfresh _) hslots

theorem process_of_axis?_slot (hprotocol : tracker.protocol = .slotted)
    (hdropped : tracker.isDropped = false) {value : Int32}
    (hrecord : record.axis? Kernel.Axis.slot = some value) :
    tracker.process record = (tracker.selectSlot value, none) := by
  unfold Kernel.Record.axis? at hrecord
  split at hrecord
  . next haxis =>
    obtain rfl := Option.some.inj hrecord
    unfold process
    rw [haxis.1, haxis.2, if_neg (by decide), hdropped, if_neg Bool.false_ne_true, if_pos rfl,
      onAxis_slot hprotocol]
  . contradiction

theorem framesOf_of_axis?_slot (hprotocol : tracker.protocol = .slotted)
    (hdropped : tracker.isDropped = false) {value : Int32}
    (hrecord : record.axis? Kernel.Axis.slot = some value) (records : List Record) :
    tracker.framesOf (record :: records) = none :: (tracker.selectSlot value).framesOf records := by
  rw [framesOf_cons, process_of_axis?_slot hprotocol hdropped hrecord]

theorem framesOf_resumed_slotted (hstart : Rested start)
    (hrecords : ∀ record ∈ records, record.IsWithinFrame)
    (hrestated : start.IsRestatedBy records) {later : List Record}
    (hlater : Resumes .slotted later) :
    (start.feed records).resumed.framesOf later = start.framesOf later := by
  have halike := alike_resumed_slotted hstart hrecords hrestated
  have hprotocol : ({ start with current := (start.feed records).current } : Tracker).protocol =
    .slotted := hstart.protocol
  obtain ⟨first, rest, rfl, hfirst⟩ := hlater rfl
  obtain ⟨value, hvalue⟩ := Option.isSome_iff_exists.1 hfirst
  rw [framesOf_of_alike (by rw [hprotocol]; rfl) halike,
    framesOf_of_axis?_slot hstart.protocol hstart.isDropped hvalue]
  exact framesOf_of_axis?_slot hprotocol hstart.isDropped hvalue rest

theorem ofGroup_concat (records : List Record) (record : Record) (index : Nat) :
    Record.ofGroup (records ++ [record]) index =
      Record.ofGroup records index ++
        if Record.contactCount records = index then [record] else [] := by
  unfold Record.ofGroup
  rw [filter_take_concat fun before => Record.contactCount before == index]
  simp only [beq_iff_eq]

theorem place_overridden_of_sync (contact : Contact) (records : List Record)
    (hkind : record.kind = Kernel.EventType.sync) :
    (contact.overridden (records ++ [record])).place = (contact.overridden records).place := by
  rw [Contact.place_overridden_concat]
  simp only [axis?_of_sync hkind]
  rfl

theorem place_see (slot : Slot) (index : Nat) :
    (slot.see index).contact.place = slot.contact.place := by
  unfold Slot.see
  dsimp only
  split <;> rfl

theorem place_process_of_sync (hprotocol : tracker.protocol = .anonymous)
    (hdropped : tracker.isDropped = false) (hkind : record.kind = Kernel.EventType.sync)
    (hrecord : record.IsWithinFrame) {index : Nat} {slot : Slot}
    (hslot : (tracker.process record).1.slots[index]? = some slot) :
    ∃ old, tracker.slots[index]? = some old ∧ slot.contact.place = old.contact.place := by
  rcases process_anonymous hprotocol hdropped hrecord with
    ⟨-, hnext⟩ | ⟨-, hplaces, -⟩ | ⟨-, -, hnext⟩
  . rw [hnext] at hslot
    unfold onContactReport at hslot
    split at hslot
    . obtain ⟨old, hold, rfl⟩ := exists_of_updateSlot hslot
      refine ⟨old, hold, ?_⟩
      split
      . apply place_see
      . rfl
    . exact ⟨slot, hslot, rfl⟩
  . unfold Kernel.Record.placesContact at hplaces
    rw [hkind] at hplaces
    contradiction
  . rw [hnext] at hslot
    exact ⟨slot, hslot, rfl⟩

theorem place_process_of_ne_sync (hprotocol : tracker.protocol = .anonymous)
    (hdropped : tracker.isDropped = false) (hkind : record.kind ≠ Kernel.EventType.sync)
    {index : Nat} {slot : Slot}
    (hslot : (tracker.process record).1.slots[index]? = some slot) :
    ∃ old, tracker.slots[index]? = some old ∧ slot.contact =
      if tracker.group = index then old.contact.placedBy record else old.contact := by
  rw [slots_process hkind hdropped, hprotocol] at hslot
  unfold modifyTarget target? at hslot
  rw [hprotocol] at hslot
  by_cases hlt : tracker.group < tracker.slots.length
  . simp only [hlt, if_true, List.getElem?_modify, Slot.hear_anonymous] at hslot
    obtain ⟨old, hold, rfl⟩ := Option.map_eq_some_iff.1 hslot
    refine ⟨old, hold, ?_⟩
    split <;> rfl
  . simp only [hlt, if_false] at hslot
    have hindex : index < tracker.slots.length := (List.getElem?_eq_some_iff.1 hslot).1
    refine ⟨slot, hslot, ?_⟩
    rw [if_neg (by omega)]

theorem place_feed_anonymous {count : Nat} (h : Awaits count start)
    (hrecords : ∀ record ∈ records, record.IsWithinFrame) (index : Nat) (slot before : Slot)
    (hslot : (start.feed records).slots[index]? = some slot)
    (hbefore : start.slots[index]? = some before) :
    slot.contact.place = (before.contact.overridden (Record.ofGroup records index)).place := by
  induction records using List.reverseRecOn generalizing slot with
  | nil =>
    obtain rfl := Option.some.inj (hslot.symm.trans hbefore)
    rfl
  | append_singleton records record ih =>
    rw [List.forall_mem_append] at hrecords
    have hrecord := hrecords.2 record (List.mem_singleton_self record)
    have hgathers := gathers_feed h hrecords.1
    have hindex : index < start.slots.length := (List.getElem?_eq_some_iff.1 hbefore).1
    rw [feed_concat] at hslot
    rw [ofGroup_concat]
    by_cases hkind : record.kind = Kernel.EventType.sync
    . obtain ⟨old, hold, hplace⟩ :=
        place_process_of_sync hgathers.protocol hgathers.isDropped hkind hrecord hslot
      rw [hplace, ih hrecords.1 old hold]
      split
      . rw [place_overridden_of_sync _ _ hkind]
      . rw [List.append_nil]
    . obtain ⟨old, hold, hcontact⟩ :=
        place_process_of_ne_sync hgathers.protocol hgathers.isDropped hkind hslot
      have hgroup : (start.feed records).group = index ↔ Record.contactCount records = index := by
        rw [hgathers.group]
        omega
      have hplace := ih hrecords.1 old hold
      simp only [hgroup] at hcontact
      rw [hcontact]
      split
      . simp only [Contact.place, Prod.mk.injEq] at hplace
        rw [Contact.place_overridden_concat, ← hplace.1, ← hplace.2.1, ← hplace.2.2]
        rfl
      . rw [hplace, List.append_nil]

theorem alike_resumed_anonymous {count : Nat} (h : Awaits count start)
    (hrecords : ∀ record ∈ records, record.IsWithinFrame)
    (hrestated : start.IsRestatedBy records) : Alike start (start.feed records).resumed := by
  have hprotocol := h.groups.protocol
  have hgathers := gathers_feed h hrecords
  refine ⟨hgathers.protocol.trans hprotocol.symm, h.isDropped.symm, ?_,
    fun _ => ⟨h.isReset.group.symm, h.isReset.isGroupOpen.symm⟩, ?_⟩
  . rw [hprotocol]
    exact nofun
  . apply forall₂_of_getElem?
    . exact hgathers.length.symm.trans (List.length_map _).symm
    . intro index slot other hslot hother
      rw [getElem?_resumed] at hother
      obtain ⟨heard, hheard, rfl⟩ := Option.map_eq_some_iff.1 hother
      have hmem := List.mem_of_getElem? hslot
      have hslots := isRestatedBy_iff.1 hrestated index slot hslot
      unfold addressed at hslots
      have hsound := h.groups.sound.slots slot hmem
      have hseen := hgathers.slots index heard slot hheard hslot
      have hplace := place_feed_anonymous h hrecords index heard slot hheard hslot
      rw [hprotocol] at hslots hsound ⊢
      unfold Slot.forget
      constructor
      . exact hplace.trans hslots.place
      . exact hseen.isDown
      . rw [hseen.owed, h.groups.owed slot hmem]
      . rintro (hslotted | hslotSeen)
        . contradiction
        . rw [h.isReset.isSeen slot hmem] at hslotSeen
          contradiction
      . nofun
      . exact fun _ => (h.isReset.isSeen slot hmem).symm
      . intro _ hdown
        have htouching := hsound.isActive_of_isDown rfl hdown
        refine ⟨htouching, ?_⟩
        rw [hseen.isActive, htouching, Bool.true_or]

end Tracker

end TouchPanel
