import TouchPanel.Proofs.Contact.Strokes
import TouchPanel.Proofs.Pointer.Untimed
import TouchPanel.Trace.Replay

/-!
This module contains what the samples of a recording are, apart from their times: those of the
transitions that a tracker reports of the records, and of its release at the end
(`Trace.map_untimed_samplesOfRecords`). Of a device of several contacts they are whole strokes
(`Trace.closed_samplesOfRecords`).
-/

namespace TouchPanel

open Kernel (Record)

/--
What a sample of a transition is, apart from its time.
-/
def Calibration.mark (calibration : Calibration) (transition : Transition) : Sample :=
  calibration.sample transition 0

namespace Tracker

def reported (tracker : Tracker) (records : List Record) : List Transition :=
  (tracker.performAll (records.map .process ++ [.release 0])).2

theorem reported_nil (tracker : Tracker) : tracker.reported [] = (tracker.release 0).2 :=
  List.append_nil _

theorem reported_cons (tracker : Tracker) (record : Record) (records : List Record) :
    tracker.reported (record :: records) =
      (tracker.process record).2.getD [] ++ (tracker.process record).1.reported records := rfl

theorem frames_cons (tracker : Tracker) (record : Record) (records : List Record) :
    Trace.frames tracker (record :: records) =
      match (tracker.process record).2 with
      | some frame =>
        ((record, frame) :: (Trace.frames (tracker.process record).1 records).1,
          (Trace.frames (tracker.process record).1 records).2)
      | none => Trace.frames (tracker.process record).1 records := by
  cases hframe : (tracker.process record).2 <;> simp only [Trace.frames, hframe]

theorem reported_eq_append (tracker : Tracker) (records : List Record) :
    tracker.reported records =
      (Trace.frames tracker records).1.flatMap Prod.snd ++
        ((Trace.frames tracker records).2.release 0).2 := by
  induction records generalizing tracker with
  | nil => exact reported_nil tracker
  | cons record records ih =>
    rw [reported_cons, ih, frames_cons]
    cases (tracker.process record).2 <;> simp

theorem release_new (protocol : Protocol) (count : Nat) (time : UInt64) :
    ((new protocol count).release time).2 = [] := by
  unfold release reports new
  dsimp only
  rw [List.flatMap_eq_nil_iff.2, List.take_nil]
  rintro ⟨slot, index⟩ hmem
  have hslot := List.mem_of_getElem? (List.mem_zipIdx_iff_getElem?.1 hmem)
  obtain rfl := List.eq_of_mem_replicate hslot
  rfl

theorem map_mark_release (calibration : Calibration) (tracker : Tracker) (time : UInt64) :
    (tracker.release time).2.map calibration.mark =
      (tracker.release 0).2.map calibration.mark := by
  have hreleases : ∀ (slot : Slot) (index : Nat),
      (slot.releases index time).map calibration.mark =
        (slot.releases index 0).map calibration.mark := by
    intro slot index
    unfold Slot.releases
    cases slot.owed <;> cases slot.contact.isDown <;> rfl
  unfold release reports
  dsimp only
  rw [List.map_take, List.map_take, List.map_flatMap, List.map_flatMap]
  simp only [hreleases]

theorem slot_lt_of_mem_reports {report : Slot → Nat → UInt64 → List Transition}
    (hreport : ∀ slot index time, ∀ transition ∈ report slot index time, transition.slot = index)
    {slots : List Slot} {time : UInt64} {transition : Transition}
    (h : transition ∈ reports report slots time) : transition.slot < slots.length := by
  obtain ⟨⟨slot, index⟩, hslot, hmem⟩ := List.mem_flatMap.1 (List.mem_of_mem_take h)
  rw [hreport slot index time transition hmem]
  exact (List.getElem?_eq_some_iff.1 (List.mem_zipIdx_iff_getElem?.1 hslot)).1

theorem length_slots_new {protocol : Protocol} (hprotocol : protocol.isMultiTouch) (count : Nat) :
    (new protocol count).slots.length = min (max count 1) maxSlots := by
  have hsingle : protocol ≠ .single := by
    rintro rfl
    contradiction
  unfold new slotCount maxSlots
  rw [List.length_replicate, if_neg hsingle]
  omega

theorem slot_lt_of_mem_process {tracker : Tracker} {record : Record} {transition : Transition}
    (hmem : transition ∈ (tracker.process record).2.getD []) :
    transition.slot < tracker.slots.length := by
  rcases process_cases tracker record with ⟨hframe, -⟩ | ⟨hframe, -⟩
  . rw [hframe] at hmem
    contradiction
  . rw [hframe, Option.getD_some] at hmem
    rw [← length_closing]
    exact slot_lt_of_mem_reports Slot.slot_of_mem_report hmem

theorem slot_lt_of_mem_reported {tracker : Tracker} {records : List Record}
    {transition : Transition} (hmem : transition ∈ tracker.reported records) :
    transition.slot < tracker.slots.length := by
  induction records generalizing tracker with
  | nil =>
    rw [reported_nil] at hmem
    exact slot_lt_of_mem_reports Slot.slot_of_mem_releases hmem
  | cons record records ih =>
    rw [reported_cons] at hmem
    rcases List.mem_append.1 hmem with hfirst | hrest
    . exact slot_lt_of_mem_process hfirst
    . rw [← length_slots_process tracker record]
      exact ih hrest

theorem run_reported {tracker : Tracker} (hprotocol : tracker.protocol.isMultiTouch)
    (h : tracker.Sound) (records : List Record) (index : Nat) :
    Stroke.run (tracker.isOpenAt index) (phasesAt index (tracker.reported records)) =
      some false := by
  induction records generalizing tracker with
  | nil =>
    rw [reported_nil, phasesAt_release h]
    cases tracker.isOpenAt index <;> rfl
  | cons record records ih =>
    obtain ⟨hnext, hrun⟩ := sound_process hprotocol h record
    rw [reported_cons, phasesAt_append, Stroke.run_append, hrun]
    apply ih _ hnext
    rw [protocol_process]
    exact hprotocol

end Tracker

namespace Calibration

theorem key_mark {calibration : Calibration} (hmulti : calibration.isMultiTouch = true)
    (transition : Transition) :
    (calibration.mark transition).key = ⟨.touch, UInt32.ofNat transition.slot⟩ := by
  unfold mark sample
  rw [hmulti]
  rfl

theorem ofKey_map_mark {calibration : Calibration} (hmulti : calibration.isMultiTouch = true)
    {transitions : List Transition}
    (hslots : ∀ transition ∈ transitions, transition.slot < maxSlots) (key : Key) :
    Stroke.ofKey key (transitions.map calibration.mark) =
      if key.origin = .touch then Tracker.phasesAt key.id.toNat transitions else [] := by
  have hkey : ∀ transition ∈ transitions,
      ((calibration.mark transition).key == key) =
        (decide (key.origin = .touch) && transition.slot == key.id.toNat) := by
    intro transition hmem
    have hslot : transition.slot < UInt32.size := Nat.lt_trans (hslots transition hmem) (by decide)
    have hid : UInt32.ofNat transition.slot = key.id ↔ transition.slot = key.id.toNat := by
      rw [← UInt32.toNat_inj, UInt32.toNat_ofNat_of_lt' hslot]
    obtain ⟨origin, id⟩ := key
    rw [key_mark hmulti, Bool.eq_iff_iff, beq_iff_eq, Key.mk.injEq, hid, Bool.and_eq_true,
      decide_eq_true_iff, beq_iff_eq, eq_comm (a := origin)]
  unfold Stroke.ofKey Tracker.phasesAt
  rw [List.filter_map, List.map_map]
  unfold Function.comp
  rw [List.filter_congr hkey]
  split
  . next horigin =>
    simp only [horigin, decide_true, Bool.true_and]
    rfl
  . next horigin => simp [horigin]

theorem closed_reported {capabilities : Device.Capabilities}
    (hprotocol : capabilities.protocol.isMultiTouch) (hmulti : capabilities.isMultiTouch = true)
    (records : List Record) (key : Key) :
    Stroke.Closed (Stroke.ofKey key
      (((Tracker.new capabilities.protocol capabilities.slotCount).reported records).map
        (ofCapabilities capabilities).mark)) := by
  have hsound := Tracker.sound_new capabilities.protocol capabilities.slotCount
  have hnew : (Tracker.new capabilities.protocol capabilities.slotCount).protocol.isMultiTouch :=
    hprotocol
  rw [ofKey_map_mark hmulti fun _ hmem =>
      Nat.lt_of_lt_of_le (Tracker.slot_lt_of_mem_reported hmem) hsound.length_slots_le]
  split
  . have hrun := Tracker.run_reported hnew hsound records key.id.toNat
    rw [Tracker.isOpenAt_new] at hrun
    exact hrun
  . rfl

end Calibration

namespace Trace

theorem map_untimed_samplesOfRecords (capabilities : Device.Capabilities) (records : List Record) :
    (samplesOfRecords capabilities records).map Sample.untimed =
      ((Tracker.new capabilities.protocol capabilities.slotCount).reported records).map
        (Calibration.ofCapabilities capabilities).mark := by
  unfold samplesOfRecords
  cases records with
  | nil =>
    rw [Tracker.reported_nil, Tracker.release_new]
    rfl
  | cons first rest =>
    rw [Tracker.reported_eq_append]
    simp only [List.head?_cons, List.getLast?_cons]
    generalize Tracker.new capabilities.protocol capabilities.slotCount = tracker
    generalize Trace.frames tracker (first :: rest) = read
    obtain ⟨frames, last⟩ := read
    dsimp only
    rw [List.map_append, ← Tracker.map_mark_release _ last (rest.getLast?.getD first).time]
    simp only [List.flatMap_append, List.flatMap_cons, List.flatMap_nil, List.append_nil,
      List.map_append, List.map_flatMap, List.map_map]
    rfl

theorem closed_samplesOfRecords {capabilities : Device.Capabilities}
    (hprotocol : capabilities.protocol.isMultiTouch) (hmulti : capabilities.isMultiTouch = true)
    (records : List Record) (key : Key) :
    Stroke.Closed (Stroke.ofKey key (samplesOfRecords capabilities records)) := by
  rw [← Stroke.ofKey_map_untimed, map_untimed_samplesOfRecords]
  exact Calibration.closed_reported hprotocol hmulti records key

end Trace

end TouchPanel
