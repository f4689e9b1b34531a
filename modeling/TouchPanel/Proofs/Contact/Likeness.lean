import TouchPanel.Proofs.Contact.Group
import TouchPanel.Proofs.Contact.Loss

/-!
This module contains when two trackers cannot be told apart by what they report. Main statement:
`Tracker.framesOf_of_alike`. Trackers with alike slots (`Slot.Alike`) give the same frames, whatever
records arrive.

Where a contact is shows as soon as it is down, so alike slots agree on it also where no contact
touches the surface. Which tracking id a lifted contact had never shows, and of anonymous contacts
no tracking id does.
-/

namespace TouchPanel

open Kernel (Record)

def Contact.placedBy (contact : Contact) (record : Record) : Contact :=
  { contact with
    x := (record.axis? Kernel.Axis.positionX).getD contact.x
    y := (record.axis? Kernel.Axis.positionY).getD contact.y
    pressure := (record.axis? Kernel.Axis.contactPressure).or contact.pressure }

namespace Slot

/--
Two slots that no frame tells apart. Whether an anonymous contact touches the surface only counts
once the present frame has reported it.
-/
structure Alike (protocol : Protocol) (slot other : Slot) : Prop where
  place : other.contact.place = slot.contact.place
  isDown : other.contact.isDown = slot.contact.isDown
  owed : other.owed.map Contact.place = slot.owed.map Contact.place
  isActive : protocol = .slotted ∨ slot.isSeen = true →
    other.contact.isActive = slot.contact.isActive
  trackingId : protocol = .slotted → slot.contact.isActive = true →
    other.contact.trackingId = slot.contact.trackingId
  isSeen : protocol = .anonymous → other.isSeen = slot.isSeen
  touches : protocol = .anonymous → slot.contact.isDown = true →
    slot.contact.isActive = true ∧ other.contact.isActive = true

def forget (slot : Slot) : Slot := { slot with isSeen := false }

/--
A slot as the end of a frame finds it.
-/
def close (protocol : Protocol) (slot : Slot) : Slot :=
  if protocol = .anonymous then slot.sweep else slot

variable {protocol : Protocol} {slot other : Slot}

theorem alike_update (h : Alike protocol slot other) {change : Contact → Contact}
    (hplace : ∀ a b : Contact, a.place = b.place → (change a).place = (change b).place)
    (hrest : ∀ contact, (change contact).isActive = contact.isActive ∧
      (change contact).isDown = contact.isDown ∧
      (change contact).trackingId = contact.trackingId) :
    Alike protocol (slot.update change) (other.update change) := by
  unfold update
  constructor
  . exact hplace _ _ h.place
  . dsimp only
    rw [(hrest _).2.1, (hrest _).2.1]
    exact h.isDown
  . exact h.owed
  . dsimp only
    rw [(hrest _).1, (hrest _).1]
    exact h.isActive
  . dsimp only
    rw [(hrest _).1, (hrest _).2.2, (hrest _).2.2]
    exact h.trackingId
  . exact h.isSeen
  . dsimp only
    rw [(hrest _).2.1, (hrest _).1, (hrest _).1]
    exact h.touches

theorem alike_track (h : Alike .slotted slot other) (id : Int32) :
    Alike .slotted (slot.track id) (other.track id) := by
  have hactive := h.isActive (Or.inl rfl)
  have hid := h.trackingId rfl
  have hsame : (other.contact.isActive = true ∧ other.contact.trackingId = id) ↔
      (slot.contact.isActive = true ∧ slot.contact.trackingId = id) := by
    rw [hactive]
    apply and_congr_right
    intro htouching
    rw [hid htouching]
  unfold track
  dsimp only
  simp only [hsame, h.isDown]
  split
  . exact ⟨h.place, h.isDown, h.owed, fun _ => rfl, nofun, nofun, nofun⟩
  . split
    . exact h
    . refine ⟨h.place, rfl, ?_, fun _ => rfl, fun _ _ => rfl, nofun, nofun⟩
      cases slot.contact.isDown with
      | false => exact h.owed
      | true => exact congrArg some h.place

theorem hear_anonymous (slot : Slot) (record : Record) :
    slot.hear .anonymous record = slot.update (·.placedBy record) := by
  unfold hear onAxis Contact.placedBy Record.axis?
  by_cases hkind : record.kind = Kernel.EventType.absolute
  . simp only [hkind, if_true, true_and, and_false, reduceCtorEq, if_false]
    -- The axes have different codes, so at most one of the tests holds.
    have hcodes : [Kernel.Axis.positionX, Kernel.Axis.positionY,
        Kernel.Axis.contactPressure].Nodup := by decide
    by_cases hx : record.code = Kernel.Axis.positionX
    . simp_all
    . by_cases hy : record.code = Kernel.Axis.positionY
      . simp_all
      . by_cases hp : record.code = Kernel.Axis.contactPressure
        . simp_all
        . simp_all [update]
  . simp [hkind, update]

theorem alike_placedBy (h : Alike protocol slot other) (record : Record) :
    Alike protocol (slot.update (·.placedBy record)) (other.update (·.placedBy record)) := by
  apply alike_update h
  . intro a b hplace
    simp only [Contact.place, Prod.mk.injEq] at hplace
    unfold Contact.placedBy Contact.place
    rw [hplace.1, hplace.2.1, hplace.2.2]
  . exact fun _ => ⟨rfl, rfl, rfl⟩

theorem alike_hear (hprotocol : protocol.isMultiTouch) (h : Alike protocol slot other)
    (record : Record) : Alike protocol (slot.hear protocol record) (other.hear protocol record) := by
  cases protocol with
  | slotted =>
    rw [hear_slotted, hear_slotted]
    cases record.axis? Kernel.Axis.trackingId with
    | none => exact alike_placedBy h record
    | some id => exact alike_track h id
  | anonymous =>
    rw [hear_anonymous, hear_anonymous]
    exact alike_placedBy h record
  | single => contradiction

theorem see_of_touches (htouches : slot.contact.isDown = true → slot.contact.isActive = true)
    (index : Nat) :
    (slot.see index).contact.place = slot.contact.place ∧
      (slot.see index).contact.isDown = slot.contact.isDown ∧
      (slot.see index).contact.isActive = true ∧
      (slot.see index).owed = slot.owed ∧ (slot.see index).isSeen = true := by
  unfold see
  dsimp only
  split
  . next hactive => exact ⟨rfl, rfl, hactive, rfl, rfl⟩
  . next hactive =>
    refine ⟨rfl, ?_, rfl, rfl, rfl⟩
    cases hdown : slot.contact.isDown with
    | false => rfl
    | true => exact absurd (htouches hdown) hactive

theorem alike_see (h : Alike .anonymous slot other) (index : Nat) :
    Alike .anonymous (slot.see index) (other.see index) := by
  have hother : other.contact.isDown = true → other.contact.isActive = true := by
    rw [h.isDown]
    exact fun hdown => (h.touches rfl hdown).2
  obtain ⟨hplace, hdown, hactive, howed, hseen⟩ :=
    see_of_touches (fun hdown => (h.touches rfl hdown).1) index
  obtain ⟨hplace', hdown', hactive', howed', hseen'⟩ := see_of_touches hother index
  constructor
  . rw [hplace, hplace', h.place]
  . rw [hdown, hdown', h.isDown]
  . rw [howed, howed', h.owed]
  . rw [hactive, hactive']
    exact fun _ => rfl
  . nofun
  . rw [hseen, hseen']
    exact fun _ => rfl
  . exact fun _ _ => ⟨hactive, hactive'⟩

theorem alike_forget (h : Alike protocol slot other) :
    Alike protocol slot.forget other.forget := by
  refine ⟨h.place, h.isDown, h.owed, ?_, h.trackingId, fun _ => rfl, h.touches⟩
  rintro (hprotocol | hseen)
  . exact h.isActive (Or.inl hprotocol)
  . contradiction

theorem isActive_close (hprotocol : protocol.isMultiTouch) (h : Alike protocol slot other) :
    (other.close protocol).contact.isActive = (slot.close protocol).contact.isActive := by
  unfold close
  cases protocol with
  | slotted => exact h.isActive (Or.inl rfl)
  | anonymous =>
    rw [if_pos rfl, if_pos rfl]
    unfold sweep update
    dsimp only
    rw [h.isSeen rfl]
    cases hseen : slot.isSeen with
    | false => rw [Bool.and_false, Bool.and_false]
    | true => rw [h.isActive (Or.inr hseen)]
  | single => contradiction

theorem close_contact (protocol : Protocol) (slot : Slot) :
    (slot.close protocol).contact.place = slot.contact.place ∧
      (slot.close protocol).contact.isDown = slot.contact.isDown ∧
      (slot.close protocol).owed = slot.owed := by
  unfold close
  split <;> exact ⟨rfl, rfl, rfl⟩

theorem report_close (hprotocol : protocol.isMultiTouch) (h : Alike protocol slot other)
    (index : Nat) (time : UInt64) :
    (other.close protocol).report index time = (slot.close protocol).report index time := by
  obtain ⟨hplace, hdown, howed⟩ := close_contact protocol slot
  obtain ⟨hplace', hdown', howed'⟩ := close_contact protocol other
  have htransition : (other.close protocol).contact.transition =
      (slot.close protocol).contact.transition := by
    apply Contact.transition_congr
    rw [hplace, hplace', h.place]
  have hups : (other.owed.map fun previous => previous.transition .up index time) =
      slot.owed.map fun previous => previous.transition .up index time := by
    have howed := h.owed
    cases hslot : slot.owed <;> cases hother : other.owed <;> rw [hslot, hother] at howed <;>
      simp at howed ⊢
    rw [Contact.transition_congr howed]
  unfold report
  dsimp only
  rw [isActive_close hprotocol h, htransition, hdown, hdown', h.isDown, howed, howed', hups]

theorem alike_settle_close (hprotocol : protocol.isMultiTouch) (h : Alike protocol slot other) :
    Alike protocol (slot.close protocol).settle (other.close protocol).settle := by
  have hactive := isActive_close hprotocol h
  unfold settle update
  constructor
  . exact (close_contact protocol other).1.trans (h.place.trans (close_contact protocol slot).1.symm)
  . exact hactive
  . rfl
  . exact fun _ => hactive
  . intro hslotted
    subst hslotted
    exact h.trackingId rfl
  . intro hanonymous
    subst hanonymous
    rfl
  . intro hanonymous htouching
    refine ⟨htouching, ?_⟩
    rw [← htouching]
    exact hactive

end Slot

namespace Tracker

structure Alike (tracker other : Tracker) : Prop where
  protocol : other.protocol = tracker.protocol
  isDropped : other.isDropped = tracker.isDropped
  current : tracker.protocol = .slotted → other.current = tracker.current
  group : tracker.protocol = .anonymous →
    other.group = tracker.group ∧ other.isGroupOpen = tracker.isGroupOpen
  slots : List.Forall₂ (Slot.Alike tracker.protocol) tracker.slots other.slots

variable {tracker other : Tracker} {record : Record}

theorem forall₂_modify_modify {R : Slot → Slot → Prop} {change : Slot → Slot}
    (hchange : ∀ slot other, R slot other → R (change slot) (change other))
    {slots others : List Slot} (h : List.Forall₂ R slots others) (index : Nat) :
    List.Forall₂ R (slots.modify index change) (others.modify index change) := by
  induction h generalizing index with
  | nil => simp
  | cons hslot hslots ih =>
    cases index with
    | zero =>
      rw [List.modify_zero_cons, List.modify_zero_cons]
      exact .cons (hchange _ _ hslot) hslots
    | succ index =>
      rw [List.modify_succ_cons, List.modify_succ_cons]
      exact .cons hslot (ih index)

theorem forall₂_map_map {R : Slot → Slot → Prop} {change : Slot → Slot}
    (hchange : ∀ slot other, R slot other → R (change slot) (change other))
    {slots others : List Slot} (h : List.Forall₂ R slots others) :
    List.Forall₂ R (slots.map change) (others.map change) := by
  apply List.forall₂_map_left_iff.2
  apply List.forall₂_map_right_iff.2
  exact h.imp hchange

theorem target?_of_alike (hprotocol : tracker.protocol.isMultiTouch) (h : Alike tracker other) :
    other.target? = tracker.target? := by
  unfold target?
  rw [h.protocol]
  cases hp : tracker.protocol with
  | slotted => exact h.current hp
  | anonymous =>
    dsimp only
    rw [(h.group hp).1, h.slots.length_eq]
  | single => simp [hp, Protocol.isMultiTouch] at hprotocol

theorem slots_modifyTarget_of_alike (hprotocol : tracker.protocol.isMultiTouch)
    (h : Alike tracker other) {change : Slot → Slot}
    (hchange : ∀ slot other, Slot.Alike tracker.protocol slot other →
      Slot.Alike tracker.protocol (change slot) (change other)) :
    List.Forall₂ (Slot.Alike tracker.protocol) (tracker.modifyTarget change)
      (other.modifyTarget change) := by
  unfold modifyTarget
  rw [target?_of_alike hprotocol h]
  split
  . exact forall₂_modify_modify hchange h.slots _
  . exact h.slots

theorem reports_of_forall₂ {slots others : List Slot} {time : UInt64}
    (h : List.Forall₂ (fun slot other : Slot =>
      ∀ index, other.report index time = slot.report index time) slots others) :
    reports Slot.report others time = reports Slot.report slots time := by
  have hall : ∀ start,
      (others.zipIdx start).flatMap (fun pair => pair.1.report pair.2 time) =
        (slots.zipIdx start).flatMap fun pair => pair.1.report pair.2 time := by
    induction h with
    | nil => exact fun _ => rfl
    | cons hslot _ ih =>
      intro start
      rw [List.zipIdx_cons, List.zipIdx_cons, List.flatMap_cons, List.flatMap_cons, ih]
      dsimp only
      rw [hslot start]
  unfold reports
  exact congrArg (List.take _) (hall 0)

theorem closing_eq_map (tracker : Tracker) :
    tracker.closing = tracker.slots.map (Slot.close tracker.protocol) := by
  unfold closing Slot.close
  split
  . rfl
  . exact (List.map_id' _).symm

theorem reports_closing_of_alike (hprotocol : tracker.protocol.isMultiTouch)
    (h : Alike tracker other) (time : UInt64) :
    reports Slot.report other.closing time = reports Slot.report tracker.closing time := by
  rw [closing_eq_map, closing_eq_map, h.protocol]
  apply reports_of_forall₂
  apply List.forall₂_map_left_iff.2
  apply List.forall₂_map_right_iff.2
  apply h.slots.imp
  intro slot other halike index
  exact Slot.report_close hprotocol halike index time

theorem settle_closing_of_alike (hprotocol : tracker.protocol.isMultiTouch)
    (h : Alike tracker other) :
    List.Forall₂ (Slot.Alike tracker.protocol) (tracker.closing.map Slot.settle)
      (other.closing.map Slot.settle) := by
  rw [closing_eq_map, closing_eq_map, h.protocol, List.map_map, List.map_map]
  apply forall₂_map_map _ h.slots
  intro slot other
  exact Slot.alike_settle_close hprotocol

theorem current_finishFrame (tracker : Tracker) (time : UInt64) :
    (tracker.finishFrame time).1.current = tracker.current := by
  unfold finishFrame
  dsimp only
  split <;> rfl

theorem alike_finishFrame (hprotocol : tracker.protocol.isMultiTouch) (h : Alike tracker other)
    (time : UInt64) : Alike (tracker.finishFrame time).1 (other.finishFrame time).1 := by
  constructor
  . rw [protocol_finishFrame, protocol_finishFrame]
    exact h.protocol
  . rw [isDropped_finishFrame, isDropped_finishFrame]
    exact h.isDropped
  . rw [protocol_finishFrame, current_finishFrame, current_finishFrame]
    exact h.current
  . rw [protocol_finishFrame]
    intro hanonymous
    have hreset := isReset_finishFrame hanonymous time
    have hreset' := isReset_finishFrame (h.protocol.trans hanonymous) time
    exact ⟨hreset'.group.trans hreset.group.symm,
      hreset'.isGroupOpen.trans hreset.isGroupOpen.symm⟩
  . rw [protocol_finishFrame, slots_finishFrame, slots_finishFrame]
    exact settle_closing_of_alike hprotocol h

theorem alike_onDropped (h : Alike tracker other) : Alike tracker.onDropped other.onDropped := by
  refine ⟨h.protocol, rfl, h.current, fun _ => ⟨rfl, rfl⟩, ?_⟩
  apply forall₂_map_map _ h.slots
  exact fun _ _ => Slot.alike_forget

theorem alike_onContactReport (h : Alike tracker other) :
    Alike tracker.onContactReport other.onContactReport := by
  unfold onContactReport
  by_cases hanonymous : tracker.protocol = .anonymous
  . obtain ⟨hgroup, hopen⟩ := h.group hanonymous
    rw [h.protocol, hopen, hgroup]
    split
    . refine ⟨h.protocol, h.isDropped, h.current, fun _ => ⟨rfl, rfl⟩, ?_⟩
      apply forall₂_modify_modify _ h.slots
      rw [hanonymous]
      exact fun _ _ halike => Slot.alike_see halike tracker.group
    . exact h
  . rw [if_neg (not_and_of_not_left _ hanonymous),
      if_neg (not_and_of_not_left _ (h.protocol ▸ hanonymous))]
    exact h

theorem alike_onSync (hprotocol : tracker.protocol.isMultiTouch) (h : Alike tracker other)
    (code : UInt16) (time : UInt64) :
    (other.onSync code time).2 = (tracker.onSync code time).2 ∧
      Alike (tracker.onSync code time).1 (other.onSync code time).1 := by
  unfold onSync
  rw [h.isDropped]
  split
  . exact ⟨rfl, alike_onDropped h⟩
  . split
    . exact ⟨rfl, alike_onContactReport h⟩
    . split
      . split
        . exact ⟨rfl, h.protocol, rfl, h.current, h.group, h.slots⟩
        . refine ⟨?_, alike_finishFrame hprotocol h time⟩
          dsimp only
          rw [reports_finishFrame, reports_finishFrame, reports_closing_of_alike hprotocol h]
      . exact ⟨rfl, h⟩

theorem group_updateContact (hanonymous : tracker.protocol = .anonymous)
    (change : Contact → Contact) :
    (tracker.updateContact change).group = tracker.group ∧
      (tracker.updateContact change).isGroupOpen =
        (tracker.isGroupOpen || decide (tracker.group < tracker.slots.length)) := by
  unfold updateContact
  rw [hanonymous]
  dsimp only
  split
  . next hlt => exact ⟨rfl, by simp [hlt]⟩
  . next hge => exact ⟨rfl, by simp [hge]⟩

theorem group_process (hanonymous : tracker.protocol = .anonymous)
    (hdropped : tracker.isDropped = false) (hkind : record.kind ≠ Kernel.EventType.sync) :
    (tracker.process record).1.group = tracker.group ∧
      (tracker.process record).1.isGroupOpen = (tracker.isGroupOpen ||
        (record.placesContact && decide (tracker.group < tracker.slots.length))) := by
  rcases process_anonymous hanonymous hdropped (fun hsync => absurd hsync hkind) with
    ⟨hcloses, -⟩ | ⟨-, hplaces, change, hnext, -⟩ | ⟨-, hplaces, hnext⟩
  . unfold Kernel.Record.closesContact at hcloses
    rw [Bool.and_eq_true, beq_iff_eq] at hcloses
    exact absurd hcloses.1 hkind
  . rw [hnext, hplaces, Bool.true_and]
    exact group_updateContact hanonymous change
  . rw [hnext, hplaces, Bool.false_and, Bool.or_false]
    exact ⟨rfl, rfl⟩

theorem process_of_ne_sync (hdropped : tracker.isDropped = true)
    (hkind : record.kind ≠ Kernel.EventType.sync) : (tracker.process record).1 = tracker := by
  unfold process
  rw [if_neg hkind, if_pos hdropped]

theorem alike_hears (hprotocol : tracker.protocol.isMultiTouch) (h : Alike tracker other)
    (hdropped : tracker.isDropped = false) (hkind : record.kind ≠ Kernel.EventType.sync) :
    Alike (tracker.process record).1 (other.process record).1 := by
  have hdropped' : other.isDropped = false := h.isDropped.trans hdropped
  constructor
  . rw [protocol_process, protocol_process]
    exact h.protocol
  . rw [isDropped_process hkind, isDropped_process hkind]
    exact h.isDropped
  . rw [protocol_process]
    intro hslotted
    rw [current_process hslotted hdropped hkind,
      current_process (h.protocol.trans hslotted) hdropped' hkind, h.slots.length_eq,
      h.current hslotted]
  . rw [protocol_process]
    intro hanonymous
    obtain ⟨hgroup, hopen⟩ := group_process hanonymous hdropped hkind
    obtain ⟨hgroup', hopen'⟩ := group_process (h.protocol.trans hanonymous) hdropped' hkind
    obtain ⟨hsame, hsameOpen⟩ := h.group hanonymous
    rw [hgroup, hgroup', hopen, hopen', hsame, hsameOpen, h.slots.length_eq]
    exact ⟨rfl, rfl⟩
  . rw [protocol_process, slots_process hkind hdropped, slots_process hkind hdropped', h.protocol]
    apply slots_modifyTarget_of_alike hprotocol h
    exact fun _ _ halike => Slot.alike_hear hprotocol halike record

theorem alike_process (hprotocol : tracker.protocol.isMultiTouch) (h : Alike tracker other)
    (record : Record) :
    (other.process record).2 = (tracker.process record).2 ∧
      Alike (tracker.process record).1 (other.process record).1 := by
  by_cases hkind : record.kind = Kernel.EventType.sync
  . unfold process
    rw [if_pos hkind, if_pos hkind]
    exact alike_onSync hprotocol h record.code record.time
  . have hreport : record.isReport = false := by
      unfold Kernel.Record.isReport
      rw [beq_eq_false_iff_ne.2 hkind, Bool.false_and]
    rw [process_of_not_isReport hreport, process_of_not_isReport hreport]
    refine ⟨rfl, ?_⟩
    cases hdropped : tracker.isDropped with
    | true =>
      rw [process_of_ne_sync hdropped hkind,
        process_of_ne_sync (h.isDropped.trans hdropped) hkind]
      exact h
    | false => exact alike_hears hprotocol h hdropped hkind

/--
Alike trackers give the same frames, whatever records arrive.
-/
theorem framesOf_of_alike (hprotocol : tracker.protocol.isMultiTouch) (h : Alike tracker other)
    (records : List Record) : other.framesOf records = tracker.framesOf records := by
  induction records generalizing tracker other with
  | nil => rfl
  | cons record records ih =>
    obtain ⟨hframe, hnext⟩ := alike_process hprotocol h record
    rw [framesOf_cons, framesOf_cons, hframe, ih _ hnext]
    rw [protocol_process]
    exact hprotocol

end Tracker
end TouchPanel
