import Mathlib.Data.List.Find
import Mathlib.Data.List.Induction
import TouchPanel.Proofs.Contact.Run

/-!
This module contains the reading of one slot over a frame: what the frame reports of the slot, told
from the records that the slot was given and not from the steps that they took
(`Slot.report_hearAll`).

The reading (`Contact.expected`) looks only at the tracking ids and at the last values. The argument
that it is right goes from record to record: `Slot.Tells` says what the slot has come to know.
-/

namespace TouchPanel

open Kernel (Record)

namespace Kernel.Record

def axis? (record : Record) (code : UInt16) : Option Int32 :=
  if record.kind = EventType.absolute ∧ record.code = code then some record.value else none

def values (records : List Record) (code : UInt16) : List Int32 :=
  records.filterMap (·.axis? code)

theorem values_concat (records : List Record) (record : Record) (code : UInt16) :
    values (records ++ [record]) code = values records code ++ (record.axis? code).toList := by
  unfold values
  rw [List.filterMap_append]
  cases haxis : record.axis? code <;> simp [haxis]

theorem axis?_other {record : Record} {code other : UInt16} {value : Int32}
    (h : record.axis? code = some value) (hne : other ≠ code) : record.axis? other = none := by
  unfold axis? at h ⊢
  split at h
  . next haxis =>
    rw [if_neg]
    rw [haxis.2]
    exact fun hother => hne hother.2.symm
  . contradiction

end Kernel.Record

open Kernel.Record (values)

namespace Contact

def overridden (contact : Contact) (records : List Record) : Contact :=
  { contact with
    x := (values records Kernel.Axis.positionX).getLast?.getD contact.x
    y := (values records Kernel.Axis.positionY).getLast?.getD contact.y
    pressure := (values records Kernel.Axis.contactPressure).getLast?.or contact.pressure }

/--
A record puts another contact in the place of the one with an id: it brings an id that is not that
one, or that one after none.
-/
def isReplacedBy (id : Int32) (before : List Record) (record : Record) : Bool :=
  (record.axis? Kernel.Axis.trackingId).any fun new =>
    new != Kernel.noTracking &&
      (new != id || (values before Kernel.Axis.trackingId).contains Kernel.noTracking)

def replacement? (id : Int32) (records : List Record) : Option Nat :=
  (List.range records.length).find? fun place =>
    records[place]?.any (isReplacedBy id (records.take place))

/--
A contact as it is when it lifts: before the record that puts another one in its place, if there is
one.
-/
def lifted (contact : Contact) (records : List Record) : Contact :=
  match replacement? contact.trackingId records with
  | some place => contact.overridden (records.take place)
  | none => contact.overridden records

/--
What a frame reports of a slot with a contact that was given some records.
-/
def expected (contact : Contact) (records : List Record) (index : Nat) (time : UInt64) :
    List Transition :=
  let ids := values records Kernel.Axis.trackingId
  let present := contact.overridden records
  if contact.isDown && ids.all (· == contact.trackingId) then
    [present.transition .move index time]
  else
    (if contact.isDown then [(contact.lifted records).transition .up index time] else []) ++
      (if ids.getLast?.any (· != Kernel.noTracking) then [present.transition .down index time]
        else [])

theorem isReplacedBy_iff {id : Int32} {before : List Record} {record : Record} :
    isReplacedBy id before record ↔
      ∃ new, record.axis? Kernel.Axis.trackingId = some new ∧ new ≠ Kernel.noTracking ∧
        (new ≠ id ∨ Kernel.noTracking ∈ values before Kernel.Axis.trackingId) := by
  unfold isReplacedBy
  rw [Option.any_eq_true]
  simp

theorem replacement?_concat (id : Int32) (records : List Record) (record : Record) :
    replacement? id (records ++ [record]) =
      (replacement? id records).or
        (if isReplacedBy id records record then some records.length else none) := by
  unfold replacement?
  rw [List.length_append, List.length_singleton, List.range_succ, List.find?_append]
  congr 1
  . apply List.find?_congr
    intro place hplace
    rw [List.mem_range] at hplace
    rw [List.getElem?_append_left hplace, List.take_append_of_le_length (Nat.le_of_lt hplace)]
  . simp

theorem lt_of_replacement? {id : Int32} {records : List Record} {place : Nat}
    (h : replacement? id records = some place) : place < records.length := by
  unfold replacement? at h
  apply List.mem_range.1
  apply List.mem_of_find?_eq_some h

theorem replacement?_eq_none {id : Int32} (hid : id ≠ Kernel.noTracking) {records : List Record}
    (hall : ∀ new ∈ values records Kernel.Axis.trackingId, new = id) :
    replacement? id records = none := by
  induction records using List.reverseRecOn with
  | nil => rfl
  | append_singleton records record ih =>
    rw [Record.values_concat, List.forall_mem_append] at hall
    obtain ⟨hbefore, hlast⟩ := hall
    rw [replacement?_concat, ih hbefore, if_neg]
    . rfl
    . rw [isReplacedBy_iff]
      rintro ⟨new, haxis, -, hnew | hmem⟩
      . apply hnew
        apply hlast
        simp [haxis]
      . exact hid (hbefore _ hmem).symm

theorem getLast?_of_replacement?_eq_none {id : Int32} {records : List Record}
    (h : replacement? id records = none)
    (hall : ¬∀ new ∈ values records Kernel.Axis.trackingId, new = id) :
    (values records Kernel.Axis.trackingId).getLast? = some Kernel.noTracking := by
  induction records using List.reverseRecOn with
  | nil => exact absurd nofun hall
  | append_singleton records record ih =>
    rw [replacement?_concat, Option.or_eq_none_iff, ite_eq_right_iff] at h
    obtain ⟨hbefore, hrecord⟩ := h
    rw [isReplacedBy_iff] at hrecord
    rw [Record.values_concat] at hall ⊢
    cases haxis : record.axis? Kernel.Axis.trackingId with
    | none =>
      rw [haxis, Option.toList_none, List.append_nil] at hall
      rw [Option.toList_none, List.append_nil]
      exact ih hbefore hall
    | some new =>
      rw [Option.toList_some, List.getLast?_concat]
      by_contra hnew
      -- The id is that of the contact, and so are all before it, for none came among them.
      have hlast : ¬(new ≠ id ∨ Kernel.noTracking ∈ values records Kernel.Axis.trackingId) := by
        intro hother
        have := hrecord ⟨new, haxis, fun hnone => hnew (by rw [hnone]), hother⟩
        contradiction
      rw [not_or, not_not] at hlast
      apply hall
      rw [haxis, List.forall_mem_append]
      constructor
      . by_contra hother
        apply hlast.2
        apply List.mem_of_getLast? (ih hbefore hother)
      . intro other hmem
        rw [Option.mem_toList] at hmem
        obtain rfl := Option.some.inj hmem
        exact hlast.1

def place (contact : Contact) : Int32 × Int32 × Option Int32 :=
  (contact.x, contact.y, contact.pressure)

theorem transition_congr {a b : Contact} (h : a.place = b.place) : a.transition = b.transition := by
  simp only [place, Prod.mk.injEq] at h
  unfold transition
  rw [h.1, h.2.1, h.2.2]

theorem place_overridden_concat (contact : Contact) (records : List Record) (record : Record) :
    (contact.overridden (records ++ [record])).place =
      ((record.axis? Kernel.Axis.positionX).getD (contact.overridden records).x,
        (record.axis? Kernel.Axis.positionY).getD (contact.overridden records).y,
        (record.axis? Kernel.Axis.contactPressure).or (contact.overridden records).pressure) := by
  unfold place overridden
  simp only [Record.values_concat, List.getLast?_append]
  cases record.axis? Kernel.Axis.positionX <;> cases record.axis? Kernel.Axis.positionY <;>
    cases record.axis? Kernel.Axis.contactPressure <;> rfl

end Contact

namespace Slot

theorem hear_slotted (slot : Slot) (record : Record) :
    slot.hear .slotted record =
      match record.axis? Kernel.Axis.trackingId with
      | some id => slot.track id
      | none => slot.update fun contact =>
        { contact with
          x := (record.axis? Kernel.Axis.positionX).getD contact.x
          y := (record.axis? Kernel.Axis.positionY).getD contact.y
          pressure := (record.axis? Kernel.Axis.contactPressure).or contact.pressure } := by
  unfold hear onAxis Record.axis?
  by_cases hkind : record.kind = Kernel.EventType.absolute
  . simp only [hkind, if_true, true_and, and_true, reduceCtorEq, if_false]
    -- The axes have different codes, so at most one of the tests holds.
    have hcodes : [Kernel.Axis.slot, Kernel.Axis.trackingId, Kernel.Axis.positionX,
        Kernel.Axis.positionY, Kernel.Axis.contactPressure].Nodup := by decide
    by_cases hslot : record.code = Kernel.Axis.slot
    . rw [if_pos hslot]
      simp_all [update]
    . rw [if_neg hslot]
      by_cases hid : record.code = Kernel.Axis.trackingId
      . simp_all
      . by_cases hx : record.code = Kernel.Axis.positionX
        . simp_all
        . by_cases hy : record.code = Kernel.Axis.positionY
          . simp_all
          . by_cases hp : record.code = Kernel.Axis.contactPressure
            . simp_all
            . simp_all [update]
  . simp [hkind, update]

structure Fresh (slot : Slot) : Prop where
  owed : slot.owed = none
  isActive : slot.contact.isActive = slot.contact.isDown
  isNamed : slot.contact.isDown → slot.contact.trackingId ≠ Kernel.noTracking

structure Tells (slot : Slot) (records : List Record) (heard : Slot) : Prop where
  place : heard.contact.place = (slot.contact.overridden records).place
  isActive : heard.contact.isActive =
    ((values records Kernel.Axis.trackingId).getLast?.map (· != Kernel.noTracking)).getD
      slot.contact.isActive
  isDown : heard.contact.isDown =
    (slot.contact.isDown && (Contact.replacement? slot.contact.trackingId records).isNone)
  trackingId : heard.contact.isDown → heard.contact.trackingId = slot.contact.trackingId
  owed : heard.owed.map Contact.place =
    if slot.contact.isDown then
      (Contact.replacement? slot.contact.trackingId records).map fun place =>
        (slot.contact.overridden (records.take place)).place
    else
      none

variable {slot heard : Slot} {records : List Record} {record : Record}

theorem tells_nil (hslot : Fresh slot) : Tells slot [] slot := by
  constructor
  . rfl
  . rfl
  . exact (Bool.and_true _).symm
  . exact fun _ => rfl
  . rw [hslot.owed]
    split <;> rfl

theorem tells_keep (h : Tells slot records heard) (record : Record)
    (hkeep : heard.contact.isDown →
      ¬Contact.isReplacedBy slot.contact.trackingId records record) :
    heard.contact.isDown = (slot.contact.isDown &&
        (Contact.replacement? slot.contact.trackingId (records ++ [record])).isNone) ∧
      heard.owed.map Contact.place =
        if slot.contact.isDown then
          (Contact.replacement? slot.contact.trackingId (records ++ [record])).map fun place =>
            (slot.contact.overridden ((records ++ [record]).take place)).place
        else
          none := by
  rw [h.isDown, h.owed, Contact.replacement?_concat]
  cases hdown : slot.contact.isDown with
  | false => exact ⟨rfl, rfl⟩
  | true =>
    cases hreplaced : Contact.replacement? slot.contact.trackingId records with
    | none =>
      rw [if_neg]
      . exact ⟨rfl, rfl⟩
      . apply hkeep
        rw [h.isDown, hdown, hreplaced]
        rfl
    | some place =>
      have hlt := Contact.lt_of_replacement? hreplaced
      simp only [Option.some_or, Option.map_some, if_true, Bool.true_and, true_and]
      rw [List.take_append_of_le_length (Nat.le_of_lt hlt)]

theorem tells_update (h : Tells slot records heard)
    (haxis : record.axis? Kernel.Axis.trackingId = none) :
    Tells slot (records ++ [record]) (heard.update fun contact =>
      { contact with
        x := (record.axis? Kernel.Axis.positionX).getD contact.x
        y := (record.axis? Kernel.Axis.positionY).getD contact.y
        pressure := (record.axis? Kernel.Axis.contactPressure).or contact.pressure }) := by
  have hkeep : ¬Contact.isReplacedBy slot.contact.trackingId records record := by
    rw [Contact.isReplacedBy_iff]
    rintro ⟨new, hnew, -⟩
    rw [haxis] at hnew
    contradiction
  obtain ⟨hdown, howed⟩ := tells_keep h record fun _ => hkeep
  have hplace := h.place
  simp only [Contact.place, Prod.mk.injEq] at hplace
  unfold update
  constructor
  . rw [Contact.place_overridden_concat, ← hplace.1, ← hplace.2.1, ← hplace.2.2]
    rfl
  . rw [Record.values_concat, haxis, Option.toList_none, List.append_nil]
    exact h.isActive
  . exact hdown
  . exact h.trackingId
  . exact howed

theorem isReplacedBy_iff_of_tells (hslot : Fresh slot) (h : Tells slot records heard)
    (hdown : heard.contact.isDown) {id : Int32}
    (haxis : record.axis? Kernel.Axis.trackingId = some id) (hid : id ≠ Kernel.noTracking) :
    Contact.isReplacedBy slot.contact.trackingId records record ↔
      ¬(heard.contact.isActive ∧ heard.contact.trackingId = id) := by
  have hstart := h.isDown
  rw [hdown, eq_comm, Bool.and_eq_true, Option.isNone_iff_eq_none] at hstart
  obtain ⟨hslotDown, hreplaced⟩ := hstart
  have hnamed := hslot.isNamed hslotDown
  have hactive : heard.contact.isActive ↔
      Kernel.noTracking ∉ values records Kernel.Axis.trackingId := by
    rw [h.isActive, hslot.isActive, hslotDown]
    by_cases hall : ∀ new ∈ values records Kernel.Axis.trackingId, new = slot.contact.trackingId
    . have hnone : Kernel.noTracking ∉ values records Kernel.Axis.trackingId :=
        fun hmem => hnamed (hall _ hmem).symm
      refine iff_of_true ?_ hnone
      cases hlast : (values records Kernel.Axis.trackingId).getLast? with
      | none => rfl
      | some last =>
        have := hall last (List.mem_of_getLast? hlast)
        simp [this, hnamed]
    . have hlast := Contact.getLast?_of_replacement?_eq_none hreplaced hall
      rw [hlast]
      exact iff_of_false nofun (not_not_intro (List.mem_of_getLast? hlast))
  rw [Contact.isReplacedBy_iff, hactive, h.trackingId hdown, haxis]
  constructor
  . rintro ⟨new, hnew, -, hother⟩ ⟨hnone, hsame⟩
    obtain rfl := Option.some.inj hnew
    rcases hother with hne | hmem
    . exact hne hsame.symm
    . exact hnone hmem
  . intro hother
    refine ⟨id, rfl, hid, ?_⟩
    by_contra hsame
    rw [not_or, not_not] at hsame
    exact hother ⟨hsame.2, hsame.1.symm⟩

theorem tells_track (hslot : Fresh slot) (h : Tells slot records heard) {id : Int32}
    (haxis : record.axis? Kernel.Axis.trackingId = some id) :
    Tells slot (records ++ [record]) (heard.track id) := by
  have hplace : heard.contact.place = (slot.contact.overridden (records ++ [record])).place := by
    rw [Contact.place_overridden_concat, h.place, Record.axis?_other haxis (by decide),
      Record.axis?_other haxis (by decide), Record.axis?_other haxis (by decide)]
    rfl
  have hids : (values (records ++ [record]) Kernel.Axis.trackingId).getLast? = some id := by
    rw [Record.values_concat, haxis, Option.toList_some, List.getLast?_concat]
  unfold track
  dsimp only
  split
  . next hid =>
    -- The contact ends, and no other takes its place.
    have hkeep : ¬Contact.isReplacedBy slot.contact.trackingId records record := by
      rw [Contact.isReplacedBy_iff]
      rintro ⟨new, hnew, hne, -⟩
      rw [haxis] at hnew
      obtain rfl := Option.some.inj hnew
      contradiction
    obtain ⟨hdown, howed⟩ := tells_keep h record fun _ => hkeep
    constructor
    . exact hplace
    . rw [hids, hid]
      rfl
    . exact hdown
    . exact h.trackingId
    . exact howed
  . next hid =>
    have hactive : true = ((values (records ++ [record]) Kernel.Axis.trackingId).getLast?.map
        (· != Kernel.noTracking)).getD slot.contact.isActive := by
      rw [hids]
      simp [hid]
    split
    . next hsame =>
      -- The id is that of the contact.
      obtain ⟨hdown, howed⟩ := tells_keep h record fun hdown => by
        rw [isReplacedBy_iff_of_tells hslot h hdown haxis hid]
        exact not_not_intro hsame
      constructor
      . exact hplace
      . rw [hsame.1]
        exact hactive
      . exact hdown
      . exact h.trackingId
      . exact howed
    . next hother =>
      cases hdown : heard.contact.isDown with
      | true =>
        -- Another contact takes the place of one that is down.
        have hreplaced := (isReplacedBy_iff_of_tells hslot h hdown haxis hid).2 hother
        have hstart := h.isDown
        rw [hdown, eq_comm, Bool.and_eq_true, Option.isNone_iff_eq_none] at hstart
        constructor
        . exact hplace
        . exact hactive
        . rw [Contact.replacement?_concat, hstart.2, if_pos hreplaced]
          simp
        . nofun
        . rw [Contact.replacement?_concat, hstart.1, hstart.2, if_pos hreplaced]
          simp [h.place]
      | false =>
        obtain ⟨hdown', howed⟩ := tells_keep h record fun hdown' => by simp_all
        constructor
        . exact hplace
        . exact hactive
        . rw [← hdown', hdown]
        . nofun
        . exact howed

theorem tells_hear (hslot : Fresh slot) (h : Tells slot records heard) (record : Record) :
    Tells slot (records ++ [record]) (heard.hear .slotted record) := by
  rw [hear_slotted]
  cases haxis : record.axis? Kernel.Axis.trackingId with
  | none => apply tells_update h haxis
  | some id => apply tells_track hslot h haxis

def hearAll (records : List Record) (slot : Slot) : Slot :=
  records.foldl (fun slot record => slot.hear .slotted record) slot

theorem tells_hearAll (hslot : Fresh slot) (records : List Record) :
    Tells slot records (slot.hearAll records) := by
  induction records using List.reverseRecOn with
  | nil => apply tells_nil hslot
  | append_singleton records record ih =>
    unfold hearAll at ih ⊢
    rw [List.foldl_append]
    apply tells_hear hslot ih

theorem report_of_isUp (hslot : Fresh slot) (hup : slot.contact.isDown = false)
    (h : Tells slot records heard) (index : Nat) (time : UInt64) :
    heard.report index time = slot.contact.expected records index time := by
  have hdown := h.isDown
  have howed := h.owed
  have hactive := h.isActive
  rw [hup] at hdown howed
  rw [hslot.isActive, hup] at hactive
  have hnone : heard.owed = none := by simpa using howed
  unfold report Contact.expected
  dsimp only
  rw [hnone, hactive, hdown, hup, Contact.transition_congr h.place]
  cases (values records Kernel.Axis.trackingId).getLast? <;> simp

theorem expected_of_isKept {contact : Contact} (hdown : contact.isDown = true)
    (hall : ∀ id ∈ values records Kernel.Axis.trackingId, id = contact.trackingId) (index : Nat)
    (time : UInt64) :
    contact.expected records index time =
      [(contact.overridden records).transition .move index time] := by
  unfold Contact.expected
  dsimp only
  rw [hdown, Bool.true_and, if_pos]
  rw [List.all_eq_true]
  intro id hid
  rw [beq_iff_eq]
  exact hall id hid

theorem expected_of_isLifted {contact : Contact} (hdown : contact.isDown = true)
    (hall : ¬∀ id ∈ values records Kernel.Axis.trackingId, id = contact.trackingId) (index : Nat)
    (time : UInt64) :
    contact.expected records index time =
      (contact.lifted records).transition .up index time ::
        (if (values records Kernel.Axis.trackingId).getLast?.any (· != Kernel.noTracking) then
          [(contact.overridden records).transition .down index time]
        else []) := by
  unfold Contact.expected
  dsimp only
  rw [hdown, Bool.true_and, if_neg]
  . rfl
  . rw [List.all_eq_true]
    intro hids
    apply hall
    intro id hid
    rw [← beq_iff_eq]
    exact hids id hid

theorem report_of_isKept (hslot : Fresh slot) (hdown : slot.contact.isDown = true)
    (hall : ∀ id ∈ values records Kernel.Axis.trackingId, id = slot.contact.trackingId)
    (h : Tells slot records heard) (index : Nat) (time : UInt64) :
    heard.report index time = slot.contact.expected records index time := by
  have hnamed := hslot.isNamed hdown
  have hkept := Contact.replacement?_eq_none hnamed hall
  have hstill := h.isDown
  have howed := h.owed
  rw [hdown, hkept] at hstill howed
  have hnone : heard.owed = none := by simpa using howed
  have hactive : heard.contact.isActive = true := by
    rw [h.isActive, hslot.isActive, hdown]
    cases hlast : (values records Kernel.Axis.trackingId).getLast? with
    | none => rfl
    | some last =>
      have := hall last (List.mem_of_getLast? hlast)
      simp [this, hnamed]
  rw [expected_of_isKept hdown hall]
  unfold report
  dsimp only
  rw [hnone, hactive, hstill, Contact.transition_congr h.place]
  rfl

theorem report_of_isLifted (hdown : slot.contact.isDown = true)
    (hall : ¬∀ id ∈ values records Kernel.Axis.trackingId, id = slot.contact.trackingId)
    (h : Tells slot records heard) (index : Nat) (time : UInt64) :
    heard.report index time = slot.contact.expected records index time := by
  have hstill := h.isDown
  have howed := h.owed
  have hactive := h.isActive
  rw [hdown] at hstill howed
  rw [expected_of_isLifted hdown hall]
  unfold report Contact.lifted
  dsimp only
  rw [Contact.transition_congr h.place]
  cases hreplaced : Contact.replacement? slot.contact.trackingId records with
  | none =>
    have hlast := Contact.getLast?_of_replacement?_eq_none hreplaced hall
    rw [hreplaced] at hstill howed
    have hnone : heard.owed = none := by simpa using howed
    rw [hlast] at hactive ⊢
    rw [hactive, hstill, hnone]
    rfl
  | some place =>
    rw [hreplaced] at hstill howed
    obtain ⟨previous, hprevious, hplace⟩ : ∃ previous, heard.owed = some previous ∧
        previous.place = (slot.contact.overridden (records.take place)).place := by
      simpa using howed
    have hids : (values records Kernel.Axis.trackingId).getLast? ≠ none := by
      intro hnone
      rw [List.getLast?_eq_none_iff] at hnone
      rw [hnone] at hall
      exact hall nofun
    obtain ⟨last, hlast⟩ := Option.ne_none_iff_exists'.1 hids
    rw [hlast] at hactive ⊢
    rw [hactive, hstill, hprevious, Option.map_some, Contact.transition_congr hplace]
    rfl

theorem report_hearAll (hslot : Fresh slot) (records : List Record) (index : Nat)
    (time : UInt64) :
    (slot.hearAll records).report index time = slot.contact.expected records index time := by
  have htells := tells_hearAll hslot records
  cases hdown : slot.contact.isDown with
  | false => exact report_of_isUp hslot hdown htells index time
  | true =>
    by_cases hall : ∀ id ∈ values records Kernel.Axis.trackingId, id = slot.contact.trackingId
    . exact report_of_isKept hslot hdown hall htells index time
    . exact report_of_isLifted hdown hall htells index time

end Slot

end TouchPanel
