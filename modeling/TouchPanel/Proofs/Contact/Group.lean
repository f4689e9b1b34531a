import Mathlib.Data.List.DropRight
import TouchPanel.Proofs.Contact.Frame

/-!
This module contains the proof that a frame of an anonymous tracker depends on one number, which is
how many contacts its records close (`Tracker.process_sync_eq_countedFrame`).

The count (`Kernel.Record.contactCount`) is told from the records alone. `Tracker.Gathers` says
that the tracker has counted alike, up to the number of its slots.
-/

namespace TouchPanel

open Kernel (Record)

namespace Kernel.Record

def closesContact (record : Record) : Bool :=
  record.kind == EventType.sync && record.code == Sync.contactReport

def placesContact (record : Record) : Bool :=
  record.kind == EventType.absolute &&
    (record.code == Axis.positionX || record.code == Axis.positionY ||
      record.code == Axis.contactPressure)

def IsWithinFrame (record : Record) : Prop :=
  record.kind = EventType.sync → record.code ≠ Sync.report ∧ record.code ≠ Sync.dropped

instance (record : Record) : Decidable record.IsWithinFrame :=
  inferInstanceAs (Decidable (_ → _))

/--
Since the last record that closed a contact, another one was given a position or a pressure.
-/
def hasOpenContact (records : List Record) : Bool :=
  (records.rtakeWhile fun record => !record.closesContact).any placesContact

/--
How many contacts records close. One that was given no position and no pressure is none.
-/
def contactCount (records : List Record) : Nat :=
  records.zipIdx.countP fun (record, place) =>
    record.closesContact && hasOpenContact (records.take place)

theorem hasOpenContact_concat (records : List Record) (record : Record) :
    hasOpenContact (records ++ [record]) =
      (!record.closesContact && (hasOpenContact records || record.placesContact)) := by
  unfold hasOpenContact
  rw [List.rtakeWhile_concat]
  cases record.closesContact <;> simp

theorem contactCount_concat (records : List Record) (record : Record) :
    contactCount (records ++ [record]) =
      contactCount records +
        if record.closesContact && hasOpenContact records then 1 else 0 := by
  unfold contactCount
  rw [List.zipIdx_append, List.countP_append]
  congr 1
  . apply List.countP_congr
    rintro ⟨before, place⟩ hmem
    have hplace : place < records.length := (List.mem_zipIdx' hmem).1
    dsimp only
    rw [List.take_append_of_le_length (Nat.le_of_lt hplace)]
  . simp [List.countP_cons]

end Kernel.Record

namespace Tracker

/--
An anonymous tracker between two frames: it is new, or the record before was a report, which ends a
frame or what was lost of one. Its contacts may have been released since.
-/
inductive BetweenFrames (count : Nat) : Tracker → Prop where
  | new : BetweenFrames count (.new .anonymous count)
  | report (ops : List Op) (time : UInt64) (value : Int32) :
    BetweenFrames count ((((Tracker.new .anonymous count).performAll ops).1).process
      ⟨time, Kernel.EventType.sync, Kernel.Sync.report, value⟩).1
  | release {tracker : Tracker} (h : BetweenFrames count tracker) (time : UInt64) :
    BetweenFrames count (tracker.release time).1

/--
The phases, slots and times of a frame in which so many contacts touch the surface: those in the
first slots go down or move, and what was down in the others lifts.
-/
def countedFrame (tracker : Tracker) (count : Nat) (time : UInt64) : List (Phase × Nat × UInt64) :=
  tracker.contacts.zipIdx.flatMap fun (contact, index) =>
    if index < count then [(if contact.isDown then .move else .down, index, time)]
    else if contact.isDown then [(.up, index, time)]
    else []

structure IsReset (tracker : Tracker) : Prop where
  group : tracker.group = 0
  isGroupOpen : tracker.isGroupOpen = false
  isSeen : ∀ slot ∈ tracker.slots, slot.isSeen = false

structure Groups (count : Nat) (tracker : Tracker) : Prop where
  protocol : tracker.protocol = .anonymous
  sound : tracker.Sound
  length : tracker.slots.length = slotCount .anonymous count
  owed : ∀ slot ∈ tracker.slots, slot.owed = none
  isReset : tracker.isDropped = true → tracker.IsReset

variable {count : Nat} {start tracker : Tracker} {records : List Record} {record : Record}

theorem isReset_new (count : Nat) : IsReset (new .anonymous count) := by
  refine ⟨rfl, rfl, ?_⟩
  intro slot hmem
  rw [List.eq_of_mem_replicate hmem]
  rfl

theorem groups_new (count : Nat) : Groups count (new .anonymous count) := by
  constructor
  . rfl
  . exact sound_new .anonymous count
  . exact List.length_replicate
  . intro slot hmem
    rw [List.eq_of_mem_replicate hmem]
    rfl
  . intro hdropped
    contradiction

theorem owed_change {slot next : Slot} (hchange : Slot.Change .anonymous slot next) :
    next.owed = slot.owed := by
  cases hchange with
  | rest => rfl
  | hear record =>
    unfold Slot.hear Slot.onAxis
    simp only [reduceCtorEq, and_false, if_false]
    split
    . split
      . rfl
      . split
        . rfl
        . split <;> rfl
    . rfl
  | see index =>
    unfold Slot.see
    dsimp only
    split <;> rfl
  | forget => rfl

theorem owed_of_forall₂ {slots next : List Slot}
    (hchange : List.Forall₂ (Slot.Change .anonymous) slots next)
    (h : ∀ slot ∈ slots, slot.owed = none) : ∀ slot ∈ next, slot.owed = none := by
  induction hchange with
  | nil => exact nofun
  | cons hslot _ ih =>
    rw [List.forall_mem_cons] at h ⊢
    exact ⟨(owed_change hslot).trans h.1, ih h.2⟩

theorem owed_process (hprotocol : tracker.protocol = .anonymous)
    (h : ∀ slot ∈ tracker.slots, slot.owed = none) (record : Record) :
    ∀ slot ∈ (tracker.process record).1.slots, slot.owed = none := by
  rcases process_cases tracker record with ⟨-, hslots⟩ | ⟨-, hslots, -⟩
  . rw [hprotocol] at hslots
    exact owed_of_forall₂ hslots h
  . intro slot hmem
    rw [hslots] at hmem
    obtain ⟨before, -, rfl⟩ := List.mem_map.1 hmem
    rfl

theorem isDropped_onContactReport (tracker : Tracker) :
    tracker.onContactReport.isDropped = tracker.isDropped := by
  unfold onContactReport
  split <;> rfl

theorem process_of_isDropped (h : (tracker.process record).1.isDropped = true) :
    (tracker.process record).1 = tracker.onDropped ∨ (tracker.process record).1 = tracker := by
  by_cases hkind : record.kind = Kernel.EventType.sync
  . unfold process onSync at h ⊢
    rw [if_pos hkind] at h ⊢
    split
    . exact Or.inl rfl
    . next hcode =>
      rw [if_neg hcode] at h
      split
      . next hreport =>
        rw [if_pos hreport] at h
        dsimp only at h
        rw [isDropped_onContactReport] at h
        simp [h] at hreport
      . next hreport =>
        rw [if_neg hreport] at h
        split
        . next hend =>
          rw [if_pos hend] at h
          split at h
          . contradiction
          . next hdropped =>
            dsimp only at h
            rw [isDropped_finishFrame] at h
            contradiction
        . exact Or.inr rfl
  . apply Or.inr
    rw [isDropped_process hkind] at h
    unfold process
    rw [if_neg hkind, if_pos h]

theorem isReset_onDropped (tracker : Tracker) : tracker.onDropped.IsReset := by
  refine ⟨rfl, rfl, ?_⟩
  intro slot hmem
  obtain ⟨before, -, rfl⟩ := List.mem_map.1 hmem
  rfl

theorem groups_process (h : Groups count tracker) (record : Record) :
    Groups count (tracker.process record).1 := by
  constructor
  . rw [protocol_process]
    exact h.protocol
  . apply (sound_process _ h.sound record).1
    rw [h.protocol]
    rfl
  . rw [length_slots_process]
    exact h.length
  . exact owed_process h.protocol h.owed record
  . intro hdropped
    rcases process_of_isDropped hdropped with hnext | hnext
    . rw [hnext]
      apply isReset_onDropped
    . rw [hnext] at hdropped ⊢
      exact h.isReset hdropped

theorem groups_release (h : Groups count tracker) (time : UInt64) :
    Groups count (tracker.release time).1 := by
  constructor
  . exact h.protocol
  . exact sound_release h.sound time
  . rw [← h.length]
    apply List.length_map
  . intro slot hmem
    obtain ⟨before, -, rfl⟩ := List.mem_map.1 hmem
    rfl
  . intro hdropped
    obtain ⟨hgroup, hopen, hseen⟩ := h.isReset hdropped
    refine ⟨hgroup, hopen, ?_⟩
    intro slot hmem
    obtain ⟨before, hbefore, rfl⟩ := List.mem_map.1 hmem
    exact hseen before hbefore

theorem groups_performAll (h : Groups count tracker) (ops : List Op) :
    Groups count (tracker.performAll ops).1 := by
  induction ops generalizing tracker with
  | nil => exact h
  | cons op ops ih =>
    unfold performAll
    apply ih
    cases op with
    | process record => exact groups_process h record
    | release time => exact groups_release h time

theorem isReset_release (h : IsReset tracker) (time : UInt64) :
    IsReset (tracker.release time).1 := by
  refine ⟨h.group, h.isGroupOpen, ?_⟩
  intro slot hmem
  obtain ⟨before, hbefore, rfl⟩ := List.mem_map.1 hmem
  exact h.isSeen before hbefore

theorem isReset_finishFrame (hprotocol : tracker.protocol = .anonymous) (time : UInt64) :
    IsReset (tracker.finishFrame time).1 := by
  have hslots := slots_finishFrame tracker time
  unfold closing at hslots
  rw [if_pos hprotocol, List.map_map] at hslots
  constructor
  . unfold finishFrame
    rw [if_pos hprotocol]
  . unfold finishFrame
    rw [if_pos hprotocol]
  . intro slot hmem
    rw [hslots] at hmem
    obtain ⟨before, -, rfl⟩ := List.mem_map.1 hmem
    rfl

structure Awaits (count : Nat) (tracker : Tracker) : Prop where
  groups : Groups count tracker
  isDropped : tracker.isDropped = false
  isReset : IsReset tracker

theorem awaits_of_betweenFrames (h : BetweenFrames count tracker) : Awaits count tracker := by
  induction h with
  | new => exact ⟨groups_new count, rfl, isReset_new count⟩
  | report ops time value =>
    have hgroups := groups_performAll (groups_new count) ops
    generalize ((new .anonymous count).performAll ops).1 = before at hgroups ⊢
    have hnext := groups_process hgroups ⟨time, Kernel.EventType.sync, Kernel.Sync.report, value⟩
    unfold process at hnext ⊢
    rw [if_pos rfl, onSync_report] at hnext ⊢
    split at hnext
    . next hdropped =>
      obtain ⟨hgroup, hopen, hseen⟩ := hgroups.isReset hdropped
      rw [if_pos hdropped]
      exact ⟨hnext, rfl, hgroup, hopen, hseen⟩
    . next hdropped =>
      rw [if_neg hdropped]
      refine ⟨hnext, ?_, isReset_finishFrame hgroups.protocol time⟩
      dsimp only
      rw [isDropped_finishFrame]
      exact eq_false_of_ne_true hdropped
  | release _ time ih =>
    exact ⟨groups_release ih.groups time, ih.isDropped, isReset_release ih.isReset time⟩

structure HasSeen (before : Slot) (isSeen : Bool) (slot : Slot) : Prop where
  owed : slot.owed = none
  isDown : slot.contact.isDown = before.contact.isDown
  isActive : slot.contact.isActive = (before.contact.isActive || isSeen)
  isSeen : slot.isSeen = isSeen

/--
What is known of an anonymous tracker after some records of a frame: it has seen as many contacts as
they close, in the first slots.
-/
structure Gathers (start : Tracker) (records : List Record) (tracker : Tracker) : Prop where
  protocol : tracker.protocol = .anonymous
  isDropped : tracker.isDropped = false
  length : tracker.slots.length = start.slots.length
  group : tracker.group = min (Record.contactCount records) start.slots.length
  isGroupOpen : tracker.isGroupOpen =
    (Record.hasOpenContact records && decide (tracker.group < start.slots.length))
  slots : ∀ index slot before, tracker.slots[index]? = some slot →
    start.slots[index]? = some before → HasSeen before (decide (index < tracker.group)) slot

theorem gathers_nil (h : Awaits count start) : Gathers start [] start := by
  constructor
  . exact h.groups.protocol
  . exact h.isDropped
  . rfl
  . rw [h.isReset.group]
    exact (Nat.zero_min _).symm
  . exact h.isReset.isGroupOpen
  . intro index slot before hslot hbefore
    obtain rfl := Option.some.inj (hslot.symm.trans hbefore)
    have hmem := List.mem_of_getElem? hslot
    rw [h.isReset.group]
    constructor
    . exact h.groups.owed slot hmem
    . rfl
    . simp
    . exact h.isReset.isSeen slot hmem

theorem onAxis_anonymous (hprotocol : tracker.protocol = .anonymous) (code : UInt16)
    (value : Int32) :
    ((code = Kernel.Axis.positionX ∨ code = Kernel.Axis.positionY ∨
        code = Kernel.Axis.contactPressure) ∧
      ∃ change : Contact → Contact, tracker.onAxis code value = tracker.updateContact change ∧
        ∀ contact, (change contact).isDown = contact.isDown ∧
          (change contact).isActive = contact.isActive) ∨
    (¬(code = Kernel.Axis.positionX ∨ code = Kernel.Axis.positionY ∨
        code = Kernel.Axis.contactPressure) ∧
      tracker.onAxis code value = tracker) := by
  unfold onAxis
  simp only [hprotocol, reduceCtorEq, and_false, if_false]
  split
  . next hx => exact Or.inl ⟨Or.inl hx, _, rfl, fun _ => ⟨rfl, rfl⟩⟩
  . split
    . next hy => exact Or.inl ⟨Or.inr (Or.inl hy), _, rfl, fun _ => ⟨rfl, rfl⟩⟩
    . split
      . next hpressure => exact Or.inl ⟨Or.inr (Or.inr hpressure), _, rfl, fun _ => ⟨rfl, rfl⟩⟩
      . next hx hy hpressure =>
        apply Or.inr
        rw [not_or, not_or]
        exact ⟨⟨hx, hy, hpressure⟩, rfl⟩

theorem process_anonymous (hprotocol : tracker.protocol = .anonymous)
    (hdropped : tracker.isDropped = false) (hrecord : record.IsWithinFrame) :
    (record.closesContact = true ∧ (tracker.process record).1 = tracker.onContactReport) ∨
    (record.closesContact = false ∧ record.placesContact = true ∧
      ∃ change : Contact → Contact, (tracker.process record).1 = tracker.updateContact change ∧
        ∀ contact, (change contact).isDown = contact.isDown ∧
          (change contact).isActive = contact.isActive) ∨
    (record.closesContact = false ∧ record.placesContact = false ∧
      (tracker.process record).1 = tracker) := by
  unfold process
  by_cases hsync : record.kind = Kernel.EventType.sync
  . have hplaces : record.placesContact = false := by
      unfold Record.placesContact
      rw [hsync]
      rfl
    obtain ⟨hreport, hlost⟩ := hrecord hsync
    unfold onSync
    rw [if_pos hsync, if_neg hlost, if_neg hreport, hdropped, hplaces]
    unfold Record.closesContact
    by_cases hcode : record.code = Kernel.Sync.contactReport <;> simp [hsync, hcode]
  . have hcloses : record.closesContact = false := by
      unfold Record.closesContact
      rw [beq_eq_false_iff_ne.2 hsync]
      rfl
    rw [if_neg hsync, hdropped, if_neg Bool.false_ne_true, hcloses]
    unfold Record.placesContact
    split
    . next habsolute =>
      rcases onAxis_anonymous hprotocol record.code record.value with
        ⟨hcode, change, haxis, hchange⟩ | ⟨hcode, haxis⟩
      . apply Or.inr
        apply Or.inl
        exact ⟨rfl, by simpa [habsolute, or_assoc] using hcode, change, haxis, hchange⟩
      . apply Or.inr
        apply Or.inr
        exact ⟨rfl, by simpa [habsolute, and_assoc] using hcode, haxis⟩
    . next habsolute =>
      apply Or.inr
      apply Or.inr
      refine ⟨rfl, by simp [habsolute], ?_⟩
      split
      . unfold onKey
        rw [if_neg (by simp [hprotocol])]
      . rfl

theorem hasSeen_update {before slot : Slot} {isSeen : Bool} (h : HasSeen before isSeen slot)
    {change : Contact → Contact}
    (hchange : ∀ contact, (change contact).isDown = contact.isDown ∧
      (change contact).isActive = contact.isActive) :
    HasSeen before isSeen (slot.update change) := by
  constructor
  . exact h.owed
  . exact (hchange slot.contact).1.trans h.isDown
  . exact (hchange slot.contact).2.trans h.isActive
  . exact h.isSeen

theorem hasSeen_see {before slot : Slot} (h : HasSeen before false slot)
    (hbefore : before.contact.isDown → before.contact.isActive) (index : Nat) :
    HasSeen before true (slot.see index) := by
  have hactive := h.isActive
  rw [Bool.or_false] at hactive
  unfold Slot.see
  dsimp only
  split
  . next htouching =>
    refine ⟨h.owed, h.isDown, ?_, rfl⟩
    rw [Bool.or_true]
    exact htouching
  . next htouching =>
    -- The contact is new, and was not down before.
    refine ⟨h.owed, ?_, (Bool.or_true _).symm, rfl⟩
    rw [hactive] at htouching
    cases hdown : before.contact.isDown with
    | false => rfl
    | true => exact absurd (hbefore hdown) htouching

theorem exists_of_updateSlot {place index : Nat} {change : Slot → Slot} {slot : Slot}
    (h : (tracker.updateSlot place change).slots[index]? = some slot) :
    ∃ old, tracker.slots[index]? = some old ∧ slot = if place = index then change old else old := by
  unfold updateSlot at h
  rw [List.getElem?_modify] at h
  obtain ⟨old, hold, hslot⟩ := Option.map_eq_some_iff.1 h
  exact ⟨old, hold, hslot.symm⟩

theorem gathers_onContactReport (hstart : Awaits count start)
    (h : Gathers start records tracker) (hcloses : record.closesContact = true) :
    Gathers start (records ++ [record]) tracker.onContactReport := by
  have hopen := h.isGroupOpen
  have hgroup := h.group
  have hcount := Record.contactCount_concat records record
  have hnext := Record.hasOpenContact_concat records record
  rw [hcloses, Bool.true_and] at hcount
  rw [hcloses, Bool.not_true, Bool.false_and] at hnext
  unfold onContactReport
  cases hgroupOpen : tracker.isGroupOpen with
  | false =>
    rw [if_neg (by simp)]
    -- Nothing was said of the contact, or all slots have been seen.
    have hsame : tracker.group = min (Record.contactCount (records ++ [record]))
        start.slots.length := by
      rw [hgroupOpen] at hopen
      rw [hcount]
      split
      . next hcontact =>
        rw [hcontact, Bool.true_and, eq_comm, decide_eq_false_iff_not] at hopen
        omega
      . exact hgroup
    constructor
    . exact h.protocol
    . exact h.isDropped
    . exact h.length
    . exact hsame
    . rw [hnext]
      exact hgroupOpen
    . exact h.slots
  | true =>
    rw [if_pos ⟨h.protocol, rfl⟩]
    rw [hgroupOpen, eq_comm, Bool.and_eq_true, decide_eq_true_iff] at hopen
    obtain ⟨hcontact, hlt⟩ := hopen
    rw [if_pos hcontact] at hcount
    constructor
    . exact h.protocol
    . exact h.isDropped
    . unfold updateSlot
      rw [List.length_modify]
      exact h.length
    . rw [hcount]
      dsimp only
      omega
    . rw [hnext]
      rfl
    . intro index slot before hslot hbefore
      obtain ⟨old, hold, rfl⟩ := exists_of_updateSlot hslot
      have hseen := h.slots index old before hold hbefore
      change HasSeen before (decide (index < tracker.group + 1)) _
      by_cases hindex : tracker.group = index
      . subst hindex
        rw [if_pos rfl]
        rw [decide_eq_false (Nat.lt_irrefl _)] at hseen
        rw [decide_eq_true (Nat.lt_succ_self _)]
        apply hasSeen_see hseen
        have hsound := hstart.groups.sound.slots before (List.mem_of_getElem? hbefore)
        exact hsound.isActive_of_isDown hstart.groups.protocol
      . rw [if_neg hindex]
        have hsame : index < tracker.group + 1 ↔ index < tracker.group := by omega
        rw [decide_eq_decide.2 hsame]
        exact hseen

theorem gathers_updateContact (h : Gathers start records tracker)
    (hcloses : record.closesContact = false) (hplaces : record.placesContact = true)
    {change : Contact → Contact}
    (hchange : ∀ contact, (change contact).isDown = contact.isDown ∧
      (change contact).isActive = contact.isActive) :
    Gathers start (records ++ [record]) (tracker.updateContact change) := by
  have hcount := Record.contactCount_concat records record
  have hnext := Record.hasOpenContact_concat records record
  rw [hcloses, Bool.false_and, if_neg Bool.false_ne_true, Nat.add_zero] at hcount
  rw [hcloses, hplaces, Bool.or_true, Bool.not_false, Bool.true_and] at hnext
  unfold updateContact
  rw [h.protocol]
  dsimp only
  rw [h.length]
  split
  . next hlt =>
    constructor
    . exact h.protocol
    . exact h.isDropped
    . unfold updateSlot
      rw [List.length_modify]
      exact h.length
    . rw [hcount]
      exact h.group
    . rw [hnext, Bool.true_and, eq_comm, decide_eq_true_iff]
      exact hlt
    . intro index slot before hslot hbefore
      obtain ⟨old, hold, rfl⟩ := exists_of_updateSlot hslot
      have hseen := h.slots index old before hold hbefore
      split
      . exact hasSeen_update hseen hchange
      . exact hseen
  . next hge =>
    constructor
    . exact h.protocol
    . exact h.isDropped
    . exact h.length
    . rw [hcount]
      exact h.group
    . rw [h.isGroupOpen, decide_eq_false hge, Bool.and_false, Bool.and_false]
    . exact h.slots

theorem gathers_process (hstart : Awaits count start) (h : Gathers start records tracker)
    (hrecord : record.IsWithinFrame) :
    Gathers start (records ++ [record]) (tracker.process record).1 := by
  rcases process_anonymous h.protocol h.isDropped hrecord with
    ⟨hcloses, hnext⟩ | ⟨hcloses, hplaces, change, hnext, hchange⟩ | ⟨hcloses, hplaces, hnext⟩
  . rw [hnext]
    exact gathers_onContactReport hstart h hcloses
  . rw [hnext]
    exact gathers_updateContact h hcloses hplaces hchange
  . rw [hnext]
    have hcount := Record.contactCount_concat records record
    have hopen := Record.hasOpenContact_concat records record
    rw [hcloses] at hcount hopen
    rw [hplaces] at hopen
    constructor
    . exact h.protocol
    . exact h.isDropped
    . exact h.length
    . rw [hcount]
      exact h.group
    . rw [hopen, h.isGroupOpen]
      simp
    . exact h.slots

theorem gathers_feed (h : Awaits count start)
    (hrecords : ∀ record ∈ records, record.IsWithinFrame) :
    Gathers start records (start.feed records) := by
  induction records using List.reverseRecOn with
  | nil => exact gathers_nil h
  | append_singleton records record ih =>
    rw [List.forall_mem_append] at hrecords
    rw [feed_concat]
    apply gathers_process h
    . exact ih hrecords.1
    . exact hrecords.2 record (List.mem_singleton_self record)

theorem map_report_sweep {before slot : Slot} {isSeen : Bool} (h : HasSeen before isSeen slot)
    (index : Nat) (time : UInt64) :
    (slot.sweep.report index time).map
        (fun transition => (transition.phase, transition.slot, transition.time)) =
      if isSeen then [(if before.contact.isDown then .move else .down, index, time)]
      else if before.contact.isDown then [(.up, index, time)]
      else [] := by
  obtain ⟨howed, hdown, hactive, hseen⟩ := h
  unfold Slot.report Slot.sweep Slot.update Contact.transition
  dsimp only
  rw [howed, hdown, hactive, hseen]
  cases isSeen <;> cases before.contact.isDown <;> simp

theorem isDown_settle_sweep {before slot : Slot} {isSeen : Bool} (h : HasSeen before isSeen slot) :
    slot.sweep.settle.contact.isDown = isSeen := by
  obtain ⟨-, -, hactive, hseen⟩ := h
  unfold Slot.settle Slot.sweep Slot.update
  dsimp only
  rw [hactive, hseen]
  cases isSeen <;> simp

/--
A frame of an anonymous tracker is told from how many contacts its records close, up to the number
of slots: the first slots go down or move, and what was down in the others lifts. After the frame
just the first slots are down.
-/
theorem process_sync_eq_countedFrame {tracker : Tracker} (htracker : BetweenFrames count tracker)
    {records : List Record} (hrecords : ∀ record ∈ records, record.IsWithinFrame) (time : UInt64)
    (value : Int32) :
    let seen := min (Record.contactCount records) (slotCount .anonymous count)
    let ended := (tracker.feed records).process
      ⟨time, Kernel.EventType.sync, Kernel.Sync.report, value⟩
    (∃ frame, ended.2 = some frame ∧
      frame.map (fun transition => (transition.phase, transition.slot, transition.time)) =
        tracker.countedFrame seen time) ∧
    ended.1.contacts.map Contact.isDown =
      (List.range (slotCount .anonymous count)).map fun index => decide (index < seen) := by
  intro seen ended
  have hstart := awaits_of_betweenFrames htracker
  have h := gathers_feed hstart hrecords
  have hlength := hstart.groups.length
  have hgroup : (tracker.feed records).group = seen := by
    rw [h.group, hlength]
  have hended : ended = (((tracker.feed records).finishFrame time).1,
      some ((tracker.feed records).finishFrame time).2) := by
    change (tracker.feed records).process _ = _
    unfold process
    rw [if_pos rfl, onSync_report, if_neg (by simp [h.isDropped])]
  have hclosing : (tracker.feed records).closing = (tracker.feed records).slots.map Slot.sweep := by
    unfold closing
    rw [if_pos h.protocol]
  have hslots : ∀ index slot before, (tracker.feed records).closing[index]? = some slot →
      tracker.slots[index]? = some before →
      ∃ old, slot = old.sweep ∧ HasSeen before (decide (index < seen)) old := by
    intro index slot before hslot hbefore
    rw [hclosing, List.getElem?_map] at hslot
    obtain ⟨old, hold, rfl⟩ := Option.map_eq_some_iff.1 hslot
    rw [← hgroup]
    exact ⟨old, rfl, h.slots index old before hold hbefore⟩
  have hcount : (tracker.feed records).closing.length = tracker.slots.length := by
    rw [length_closing, h.length]
  rw [hended]
  constructor
  . refine ⟨_, rfl, ?_⟩
    have hle : (tracker.feed records).closing.length ≤ maxSlots := by
      rw [hcount]
      exact hstart.groups.sound.length_slots_le
    rw [reports_finishFrame, reports_eq_allReports Slot.length_report_le hle]
    unfold countedFrame contacts
    rw [List.zipIdx_map, List.flatMap_map]
    apply map_allReports_congr hcount
    intro index slot before hslot hbefore
    obtain ⟨old, rfl, hseen⟩ := hslots index slot before hslot hbefore
    rw [map_report_sweep hseen]
    simp
  . unfold contacts
    rw [slots_finishFrame, List.map_map, List.map_map]
    apply List.ext_getElem?
    intro index
    rw [List.getElem?_map, List.getElem?_map]
    rcases Nat.lt_or_ge index tracker.slots.length with hlt | hge
    . rw [List.getElem?_range (by omega)]
      have hslot := List.getElem?_eq_getElem (hcount ▸ hlt)
      obtain ⟨old, hold, hseen⟩ := hslots index _ _ hslot (List.getElem?_eq_getElem hlt)
      rw [hslot, hold, Option.map_some, Option.map_some]
      exact congrArg some (isDown_settle_sweep hseen)
    . rw [List.getElem?_eq_none (by omega), List.getElem?_eq_none]
      . rfl
      . rw [List.length_range]
        omega

/--
Of two contacts that are down the second lifts: its records come after the last one that closes a
contact, and a record that closes none does not count.
-/
theorem process_sync_eq_countedFrame_trailing :
    let place (value : Int32) : Record :=
      ⟨1, Kernel.EventType.absolute, Kernel.Axis.positionX, value⟩
    let close : Record := ⟨1, Kernel.EventType.sync, Kernel.Sync.contactReport, 0⟩
    let tracker := ((new .anonymous 2).performAll
      ([place 3, close, place 4, close, place 5, close].map .process)).1.process (.sync 2) |>.1
    let records := [close, place 6, close, close, place 7]
    BetweenFrames 2 tracker ∧ (∀ record ∈ records, record.IsWithinFrame) ∧
      tracker.contacts.map Contact.isDown = [true, true] ∧
      (∃ frame, ((tracker.feed records).process (.sync 8)).2 = some frame ∧
        frame.map (fun transition => (transition.phase, transition.slot, transition.time)) =
          [(.move, 0, 8), (.up, 1, 8)]) := by
  intro place close tracker records
  have htracker : BetweenFrames 2 tracker := .report _ 2 0
  have hrecords : ∀ record ∈ records, record.IsWithinFrame := by decide
  refine ⟨htracker, hrecords, by decide, ?_⟩
  obtain ⟨⟨frame, hframe, hphases⟩, -⟩ := process_sync_eq_countedFrame htracker hrecords 8 0
  refine ⟨frame, hframe, ?_⟩
  rw [hphases]
  decide

end Tracker

end TouchPanel
