import TouchPanel.Proofs.Contact.Reading
import TouchPanel.Proofs.Contact.Strokes

/-!
This module contains the proof that a frame of a slotted tracker is what its records say, read slot
by slot (`Tracker.process_sync_eq_expectedFrame`).

The records of a frame may change the slot at any place. `Tracker.given` gives each record to the
slot that was named last, and `Tracker.Heard` says that the tracker has done the same.
-/

namespace TouchPanel

open Kernel (Record)
open Kernel.Record (values)

namespace Tracker

def slotNamed (count : Nat) (value : Int32) : Option Nat :=
  if 0 ≤ value.toInt ∧ value.toInt < count then some value.toInt.toNat else none

/--
The slot that is selected after some records: the one that they named last, if they named any.
-/
def selected (count : Nat) (current : Option Nat) (before : List Record) : Option Nat :=
  match (values before Kernel.Axis.slot).getLast? with
  | some value => slotNamed count value
  | none => current

def given (count : Nat) (current : Option Nat) (records : List Record) (index : Nat) :
    List Record :=
  (records.zipIdx.filter fun (_, place) =>
    selected count current (records.take place) == some index).map Prod.fst

/--
The frame that records make, read slot by slot.
-/
def expectedFrame (tracker : Tracker) (records : List Record) (time : UInt64) : List Transition :=
  tracker.contacts.zipIdx.flatMap fun (contact, index) =>
    contact.expected (given tracker.slots.length tracker.current records index) index time

/--
A tracker between two frames: it is new, or the record before ended a frame.
-/
inductive AtFrameEnd (protocol : Protocol) (count : Nat) : Tracker → Prop where
  | new : AtFrameEnd protocol count (.new protocol count)
  | frame (ops : List Op) (record : Record)
    (h : ((((Tracker.new protocol count).performAll ops).1).process record).2.isSome) :
    AtFrameEnd protocol count (((Tracker.new protocol count).performAll ops).1.process record).1

def feed (tracker : Tracker) (records : List Record) : Tracker :=
  records.foldl (fun tracker record => (tracker.process record).1) tracker

theorem selected_concat (count : Nat) (current : Option Nat) (records : List Record)
    (record : Record) :
    selected count current (records ++ [record]) =
      match record.axis? Kernel.Axis.slot with
      | some value => slotNamed count value
      | none => selected count current records := by
  unfold selected
  rw [Record.values_concat]
  cases haxis : record.axis? Kernel.Axis.slot with
  | none => rw [Option.toList_none, List.append_nil]
  | some value => rw [Option.toList_some, List.getLast?_concat]

theorem filter_take_concat (chosen : List Record → Bool) (records : List Record)
    (record : Record) :
    ((records ++ [record]).zipIdx.filter fun (_, place) =>
        chosen ((records ++ [record]).take place)).map Prod.fst =
      (records.zipIdx.filter fun (_, place) => chosen (records.take place)).map Prod.fst ++
        if chosen records then [record] else [] := by
  rw [List.zipIdx_append, List.filter_append, List.map_append]
  congr 1
  . congr 1
    apply List.filter_congr
    rintro ⟨before, place⟩ hmem
    have hplace : place < records.length := (List.mem_zipIdx' hmem).1
    dsimp only
    rw [List.take_append_of_le_length (Nat.le_of_lt hplace)]
  . cases hchosen : chosen records <;> simp [hchosen]

theorem given_concat (count : Nat) (current : Option Nat) (records : List Record)
    (record : Record) (index : Nat) :
    given count current (records ++ [record]) index =
      given count current records index ++
        if selected count current records = some index then [record] else [] := by
  unfold given
  rw [filter_take_concat fun before => selected count current before == some index]
  simp only [beq_iff_eq]

theorem isDropped_process {tracker : Tracker} {record : Record}
    (hkind : record.kind ≠ Kernel.EventType.sync) :
    (tracker.process record).1.isDropped = tracker.isDropped := by
  rcases process_keeps hkind with hkeeps | hselect
  . exact hkeeps.isDropped
  . rw [hselect]
    rfl

theorem current_process {tracker : Tracker} (hprotocol : tracker.protocol = .slotted)
    (hdropped : tracker.isDropped = false) {record : Record}
    (hkind : record.kind ≠ Kernel.EventType.sync) :
    (tracker.process record).1.current =
      match record.axis? Kernel.Axis.slot with
      | some value => slotNamed tracker.slots.length value
      | none => tracker.current := by
  unfold process Record.axis?
  rw [if_neg hkind, hdropped, if_neg Bool.false_ne_true]
  split
  . next haxis =>
    by_cases hslot : record.code = Kernel.Axis.slot
    . rw [if_pos ⟨haxis, hslot⟩, hslot, onAxis_slot hprotocol]
      rfl
    . rw [if_neg (not_and_of_not_right _ hslot)]
      exact (keeps_onAxis (not_and_of_not_left _ hslot) record.value).current
  . next haxis =>
    rw [if_neg (not_and_of_not_left _ haxis)]
    split
    . exact (keeps_onKey tracker record.code record.value).current
    . rfl

structure Heard (start : Tracker) (records : List Record) (tracker : Tracker) : Prop where
  protocol : tracker.protocol = .slotted
  isDropped : tracker.isDropped = false
  current : tracker.current = selected start.slots.length start.current records
  length : tracker.slots.length = start.slots.length
  slots : ∀ index, tracker.slots[index]? =
    start.slots[index]?.map
      (Slot.hearAll (given start.slots.length start.current records index))

variable {start tracker : Tracker} {records : List Record}

theorem heard_nil (hprotocol : start.protocol = .slotted) (hdropped : start.isDropped = false) :
    Heard start [] start := by
  constructor
  . exact hprotocol
  . exact hdropped
  . rfl
  . rfl
  . intro index
    exact Option.map_id'.symm

theorem getElem?_modifyTarget (tracker : Tracker) (hprotocol : tracker.protocol = .slotted)
    (change : Slot → Slot) (index : Nat) :
    (tracker.modifyTarget change)[index]? =
      tracker.slots[index]?.map fun slot =>
        if tracker.current = some index then change slot else slot := by
  unfold modifyTarget target?
  rw [hprotocol]
  dsimp only
  cases hcurrent : tracker.current with
  | none => simp
  | some current =>
    dsimp only
    rw [List.getElem?_modify]
    simp

theorem heard_process (h : Heard start records tracker) {record : Record}
    (hkind : record.kind ≠ Kernel.EventType.sync) :
    Heard start (records ++ [record]) (tracker.process record).1 := by
  have hslots := slots_process hkind h.isDropped
  constructor
  . rw [protocol_process]
    exact h.protocol
  . rw [isDropped_process hkind]
    exact h.isDropped
  . rw [current_process h.protocol h.isDropped hkind, selected_concat, h.length, h.current]
  . rw [hslots, ← h.length]
    unfold modifyTarget
    split
    . apply List.length_modify
    . rfl
  . intro index
    rw [hslots, getElem?_modifyTarget tracker h.protocol, h.slots, given_concat, h.current,
      Option.map_map]
    congr 1
    funext slot
    -- Only the slot that is selected before the record hears it.
    by_cases hselected : selected start.slots.length start.current records = some index
    . rw [if_pos hselected, h.protocol]
      unfold Slot.hearAll
      rw [List.foldl_append]
      simp [hselected]
    . simp [hselected]

theorem feed_concat (tracker : Tracker) (records : List Record) (record : Record) :
    tracker.feed (records ++ [record]) = ((tracker.feed records).process record).1 := by
  unfold feed
  rw [List.foldl_append]
  rfl

theorem heard_feed (hprotocol : start.protocol = .slotted) (hdropped : start.isDropped = false)
    (hkinds : ∀ record ∈ records, record.kind ≠ Kernel.EventType.sync) :
    Heard start records (start.feed records) := by
  induction records using List.reverseRecOn with
  | nil => apply heard_nil hprotocol hdropped
  | append_singleton records record ih =>
    rw [List.forall_mem_append] at hkinds
    rw [feed_concat]
    apply heard_process
    . exact ih hkinds.1
    . exact hkinds.2 record (List.mem_singleton_self record)

theorem protocol_performAll (tracker : Tracker) (ops : List Op) :
    (tracker.performAll ops).1.protocol = tracker.protocol := by
  induction ops generalizing tracker with
  | nil => rfl
  | cons op ops ih =>
    unfold performAll
    dsimp only
    rw [ih, protocol_perform]

theorem map_allReports_congr {α : Type} {f : Transition → α}
    {report : Slot → Nat → UInt64 → List Transition} {slots : List Slot}
    {reported : Slot × Nat → List α} {time : UInt64} (hlength : slots.length = start.slots.length)
    (h : ∀ index slot before, slots[index]? = some slot → start.slots[index]? = some before →
      (report slot index time).map f = reported (before, index)) :
    (allReports report slots time).map f = start.slots.zipIdx.flatMap reported := by
  unfold allReports
  rw [List.map_flatMap, List.flatMap_def, List.flatMap_def]
  congr 1
  apply List.ext_getElem?
  intro index
  rw [List.getElem?_map, List.getElem?_map, List.getElem?_zipIdx, List.getElem?_zipIdx,
    Nat.zero_add]
  rcases Nat.lt_or_ge index slots.length with hlt | hge
  . have hstart : index < start.slots.length := by omega
    rw [List.getElem?_eq_getElem hlt, List.getElem?_eq_getElem hstart]
    simp only [Option.map_some]
    rw [h index]
    . exact List.getElem?_eq_getElem hlt
    . exact List.getElem?_eq_getElem hstart
  . rw [List.getElem?_eq_none hge, List.getElem?_eq_none]
    . rfl
    . omega

theorem allReports_congr {report : Slot → Nat → UInt64 → List Transition} {slots : List Slot}
    {reported : Slot × Nat → List Transition} {time : UInt64}
    (hlength : slots.length = start.slots.length)
    (h : ∀ index slot before, slots[index]? = some slot → start.slots[index]? = some before →
      report slot index time = reported (before, index)) :
    allReports report slots time = start.slots.zipIdx.flatMap reported := by
  rw [← List.map_id (allReports report slots time)]
  apply map_allReports_congr hlength
  intro index slot before hslot hbefore
  rw [List.map_id, h index slot before hslot hbefore]

structure Rested (tracker : Tracker) : Prop where
  protocol : tracker.protocol = .slotted
  isDropped : tracker.isDropped = false
  length_slots_le : tracker.slots.length ≤ maxSlots
  slots : ∀ slot ∈ tracker.slots, slot.Fresh

theorem rested_of_atFrameEnd {count : Nat} (h : AtFrameEnd .slotted count tracker) :
    Rested tracker := by
  cases h with
  | new =>
    have hsound := sound_new .slotted count
    constructor
    . rfl
    . rfl
    . exact hsound.length_slots_le
    . intro slot hmem
      rw [List.eq_of_mem_replicate hmem]
      constructor
      . rfl
      . rfl
      . exact nofun
  | frame ops record hframe =>
    have hmulti : (new .slotted count).protocol.isMultiTouch := rfl
    obtain ⟨hsound, -⟩ := sound_performAll hmulti (sound_new .slotted count) ops
    have hprotocol := protocol_performAll (new .slotted count) ops
    generalize ((new .slotted count).performAll ops).1 = before at hframe hsound hprotocol ⊢
    rcases process_cases before record with ⟨hnone, -⟩ | ⟨-, hslots, hdropped⟩
    . rw [hnone] at hframe
      contradiction
    . constructor
      . rw [protocol_process, hprotocol]
        rfl
      . exact hdropped
      . rw [hslots, List.length_map, length_closing]
        exact hsound.length_slots_le
      . intro slot hmem
        rw [hslots] at hmem
        obtain ⟨closed, hclosed, rfl⟩ := List.mem_map.1 hmem
        constructor
        . rfl
        . rfl
        . exact isNamed_closing hsound closed hclosed hprotocol

theorem process_report {tracker : Tracker} (hdropped : tracker.isDropped = false) (time : UInt64)
    (value : Int32) :
    (tracker.process ⟨time, Kernel.EventType.sync, Kernel.Sync.report, value⟩).2 =
      some (reports Slot.report tracker.closing time) := by
  unfold process
  rw [if_pos rfl, onSync_report, if_neg (by simp [hdropped]), reports_finishFrame]

/--
The frame that a slotted tracker gives for the records since the last frame is the one that they
make, read slot by slot.
-/
theorem process_sync_eq_expectedFrame {count : Nat} {tracker : Tracker}
    (htracker : AtFrameEnd .slotted count tracker) {records : List Record}
    (hrecords : ∀ record ∈ records, record.kind ≠ Kernel.EventType.sync) (time : UInt64)
    (value : Int32) :
    ((tracker.feed records).process
        ⟨time, Kernel.EventType.sync, Kernel.Sync.report, value⟩).2 =
      some (tracker.expectedFrame records time) := by
  have hstart := rested_of_atFrameEnd htracker
  have h := heard_feed hstart.protocol hstart.isDropped hrecords
  have hclosing : (tracker.feed records).closing = (tracker.feed records).slots := by
    unfold closing
    rw [h.protocol]
    rfl
  have hlength : (tracker.feed records).slots.length ≤ maxSlots := by
    rw [h.length]
    exact hstart.length_slots_le
  rw [process_report h.isDropped, hclosing,
    reports_eq_allReports Slot.length_report_le hlength]
  unfold expectedFrame contacts
  rw [List.zipIdx_map, List.flatMap_map]
  congr 1
  apply allReports_congr h.length
  intro index slot before hslot hbefore
  rw [h.slots, hbefore] at hslot
  obtain rfl := Option.some.inj hslot
  apply Slot.report_hearAll
  exact hstart.slots before (List.mem_of_getElem? hbefore)

/--
Two slots are fed in turn: the contact of the first is replaced, and the other one goes down.
-/
theorem process_sync_eq_expectedFrame_replaced :
    let tracker := (((new .slotted 2).performAll
      [.process ⟨0, Kernel.EventType.absolute, Kernel.Axis.trackingId, 4⟩]).1.process (.sync 1)).1
    let records : List Record :=
      [⟨2, Kernel.EventType.absolute, Kernel.Axis.positionX, 7⟩,
        ⟨2, Kernel.EventType.absolute, Kernel.Axis.slot, 1⟩,
        ⟨2, Kernel.EventType.absolute, Kernel.Axis.trackingId, 6⟩,
        ⟨3, Kernel.EventType.absolute, Kernel.Axis.slot, 0⟩,
        ⟨3, Kernel.EventType.absolute, Kernel.Axis.trackingId, 5⟩,
        ⟨3, Kernel.EventType.absolute, Kernel.Axis.positionX, 9⟩]
    AtFrameEnd .slotted 2 tracker ∧
      (∀ record ∈ records, record.kind ≠ Kernel.EventType.sync) ∧
      ((tracker.feed records).process ⟨4, Kernel.EventType.sync, Kernel.Sync.report, 0⟩).2 =
        some (tracker.expectedFrame records 4) ∧
      tracker.expectedFrame records 4 =
        [⟨.up, 0, 7, 0, none, 4⟩, ⟨.down, 0, 9, 0, none, 4⟩, ⟨.down, 1, 0, 0, none, 4⟩] := by
  intro tracker records
  have htracker : AtFrameEnd .slotted 2 tracker := .frame _ _ (by decide)
  have hrecords : ∀ record ∈ records, record.kind ≠ Kernel.EventType.sync := by decide
  exact ⟨htracker, hrecords, process_sync_eq_expectedFrame htracker hrecords 4 0, by decide⟩

end Tracker

end TouchPanel
