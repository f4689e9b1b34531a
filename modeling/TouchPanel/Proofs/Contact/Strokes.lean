import TouchPanel.Proofs.Contact.Run
import TouchPanel.Proofs.Pointer.Stroke

/-!
This module contains the proof that a tracker of several contacts reports strokes: whatever records
arrive and whenever the contacts are released, the phases of each slot are strokes, and a release
closes exactly the strokes that are open (`Tracker.strokes_performAll`).

The argument is about one slot. A stroke is open in it if its contact is down or an up is owed to
the contact before, but never for both reasons (`Slot.Sound`).
-/

namespace TouchPanel

open Kernel (Record)

namespace Slot

/--
The frames so far have reported a down without its up.
-/
def isOpen (slot : Slot) : Bool := slot.owed.isSome || slot.contact.isDown

structure Sound (protocol : Protocol) (slot : Slot) : Prop where
  isDown_of_owed : slot.owed.isSome → slot.contact.isDown = false
  isActive_of_isDown : protocol = .anonymous → slot.contact.isDown → slot.contact.isActive
  isNamed : protocol = .slotted → slot.contact.isActive →
    slot.contact.trackingId ≠ Kernel.noTracking

theorem sound_empty (protocol : Protocol) : Sound protocol .empty := by
  constructor <;> simp [empty, Contact.empty]

theorem sound_settle {protocol : Protocol} {slot : Slot}
    (hnamed : protocol = .slotted → slot.contact.isActive →
      slot.contact.trackingId ≠ Kernel.noTracking) :
    Sound protocol slot.settle := by
  constructor
  . exact nofun
  . exact fun _ h => h
  . exact hnamed

theorem sound_clear (protocol : Protocol) (slot : Slot) : Sound protocol slot.clear := by
  constructor <;> simp [clear, Contact.empty]

theorem sound_track {slot : Slot} (h : Sound .slotted slot) (trackingId : Int32) :
    Sound .slotted (slot.track trackingId) ∧ (slot.track trackingId).isOpen = slot.isOpen := by
  unfold track
  dsimp only
  split
  . exact ⟨⟨h.isDown_of_owed, nofun, nofun⟩, rfl⟩
  . next hid =>
    split
    . exact ⟨h, rfl⟩
    . -- The contact that was down is owed its up from now on.
      refine ⟨⟨fun _ => rfl, nofun, fun _ _ => hid⟩, ?_⟩
      unfold isOpen
      cases slot.contact.isDown <;> simp

theorem sound_update {protocol : Protocol} {slot : Slot} (h : Sound protocol slot)
    {change : Contact → Contact} (hactive : ∀ contact, (change contact).isActive = contact.isActive)
    (hdown : ∀ contact, (change contact).isDown = contact.isDown)
    (hid : ∀ contact, (change contact).trackingId = contact.trackingId) :
    Sound protocol (slot.update change) ∧ (slot.update change).isOpen = slot.isOpen := by
  unfold update isOpen
  constructor
  . constructor
    . intro howed
      rw [hdown]
      exact h.isDown_of_owed howed
    . intro hprotocol
      rw [hdown, hactive]
      exact h.isActive_of_isDown hprotocol
    . intro hprotocol
      rw [hactive, hid]
      exact h.isNamed hprotocol
  . rw [hdown]

theorem sound_onAxis {protocol : Protocol} {slot : Slot} (h : Sound protocol slot) (code : UInt16)
    (value : Int32) :
    Sound protocol (slot.onAxis protocol code value) ∧
      (slot.onAxis protocol code value).isOpen = slot.isOpen := by
  unfold onAxis
  dsimp only
  generalize (if protocol = .single then _ else _) = xCode
  generalize (if protocol = .single then _ else _) = yCode
  generalize (if protocol = .single then _ else _) = pressureCode
  split
  . exact ⟨h, rfl⟩
  . split
    . next hslotted =>
      obtain ⟨-, rfl⟩ := hslotted
      apply sound_track h
    . split
      . apply sound_update h <;> exact fun _ => rfl
      . split
        . apply sound_update h <;> exact fun _ => rfl
        . split
          . apply sound_update h <;> exact fun _ => rfl
          . exact ⟨h, rfl⟩

theorem sound_hear {protocol : Protocol} (hprotocol : protocol.isMultiTouch) {slot : Slot}
    (h : Sound protocol slot) (record : Record) :
    Sound protocol (slot.hear protocol record) ∧
      (slot.hear protocol record).isOpen = slot.isOpen := by
  unfold hear
  split
  . apply sound_onAxis h
  . split
    . next hsingle =>
      rw [hsingle.2.2] at hprotocol
      contradiction
    . exact ⟨h, rfl⟩

theorem sound_see {slot : Slot} (h : Sound .anonymous slot) (index : Nat) :
    Sound .anonymous (slot.see index) ∧ (slot.see index).isOpen = slot.isOpen := by
  unfold see
  dsimp only
  split
  . next hactive => exact ⟨⟨h.isDown_of_owed, fun _ _ => hactive, nofun⟩, rfl⟩
  . next hactive =>
    -- A contact that does not touch the surface is not down either, so nothing is forgotten.
    have hdown : slot.contact.isDown = false := by
      have := h.isActive_of_isDown rfl
      simp_all
    refine ⟨⟨fun _ => rfl, fun _ _ => rfl, nofun⟩, ?_⟩
    unfold isOpen
    rw [hdown]
    rfl

theorem sound_change {protocol : Protocol} (hprotocol : protocol.isMultiTouch) {slot next : Slot}
    (hchange : Change protocol slot next) (h : Sound protocol slot) :
    Sound protocol next ∧ next.isOpen = slot.isOpen := by
  cases hchange with
  | rest => exact ⟨h, rfl⟩
  | hear record => apply sound_hear hprotocol h
  | see index _ hanonymous =>
    subst hanonymous
    apply sound_see h
  | forget => exact ⟨⟨h.isDown_of_owed, h.isActive_of_isDown, h.isNamed⟩, rfl⟩

theorem run_report {slot : Slot} (h : slot.owed.isSome → slot.contact.isDown = false) (index : Nat)
    (time : UInt64) :
    Stroke.run slot.isOpen ((slot.report index time).map Transition.phase) =
      some slot.settle.isOpen := by
  unfold report isOpen settle update Contact.transition
  cases howed : slot.owed with
  | none =>
    cases hactive : slot.contact.isActive <;> cases hdown : slot.contact.isDown <;>
      simp [Stroke.next, hactive, hdown]
  | some previous =>
    rw [howed] at h
    have hdown := h rfl
    cases hactive : slot.contact.isActive <;> simp [Stroke.next, hactive, hdown]

theorem map_phase_releases {slot : Slot} (h : slot.owed.isSome → slot.contact.isDown = false)
    (index : Nat) (time : UInt64) :
    (slot.releases index time).map Transition.phase = if slot.isOpen then [.up] else [] := by
  unfold releases isOpen Contact.transition
  cases howed : slot.owed with
  | none => cases hdown : slot.contact.isDown <;> simp
  | some previous =>
    rw [howed] at h
    rw [h rfl]
    simp

theorem length_report_le (slot : Slot) (index : Nat) (time : UInt64) :
    (slot.report index time).length ≤ 2 := by
  unfold report
  dsimp only
  cases slot.owed <;> cases slot.contact.isActive <;> cases slot.contact.isDown <;> simp

theorem length_releases_le (slot : Slot) (index : Nat) (time : UInt64) :
    (slot.releases index time).length ≤ 2 := by
  unfold releases
  dsimp only
  cases slot.owed <;> cases slot.contact.isDown <;> simp

theorem slot_of_mem_report (slot : Slot) (index : Nat) (time : UInt64) :
    ∀ transition ∈ slot.report index time, transition.slot = index := by
  unfold report Contact.transition
  dsimp only
  cases slot.owed <;> cases slot.contact.isActive <;> cases slot.contact.isDown <;> simp

theorem slot_of_mem_releases (slot : Slot) (index : Nat) (time : UInt64) :
    ∀ transition ∈ slot.releases index time, transition.slot = index := by
  unfold releases Contact.transition
  dsimp only
  cases slot.owed <;> cases slot.contact.isDown <;> simp

end Slot

namespace Tracker

theorem phasesAt_append (index : Nat) (transitions more : List Transition) :
    phasesAt index (transitions ++ more) = phasesAt index transitions ++ phasesAt index more := by
  unfold phasesAt
  rw [List.filter_append, List.map_append]

theorem filter_of_slot_eq {index : Nat} {transitions : List Transition}
    (h : ∀ transition ∈ transitions, transition.slot = index) :
    (transitions.filter fun transition => transition.slot == index) = transitions := by
  apply List.filter_eq_self.2
  intro transition hmem
  simpa using h transition hmem

theorem filter_of_slot_ne {index other : Nat} (hne : other ≠ index)
    {transitions : List Transition} (h : ∀ transition ∈ transitions, transition.slot = other) :
    (transitions.filter fun transition => transition.slot == index) = [] := by
  apply List.filter_eq_nil_iff.2
  intro transition hmem
  rw [h transition hmem]
  simpa using hne

theorem phasesAt_of_slot_eq {index : Nat} {transitions : List Transition}
    (h : ∀ transition ∈ transitions, transition.slot = index) :
    phasesAt index transitions = transitions.map Transition.phase := by
  unfold phasesAt
  rw [filter_of_slot_eq h]

theorem allReports_concat (report : Slot → Nat → UInt64 → List Transition) (slots : List Slot)
    (slot : Slot) (time : UInt64) :
    allReports report (slots ++ [slot]) time =
      allReports report slots time ++ report slot slots.length time := by
  unfold allReports
  rw [List.zipIdx_append, List.flatMap_append]
  simp

theorem filter_allReports {report : Slot → Nat → UInt64 → List Transition}
    (hslot : ∀ slot index time, ∀ transition ∈ report slot index time, transition.slot = index)
    (slots : List Slot) (time : UInt64) (index : Nat) :
    ((allReports report slots time).filter fun transition => transition.slot == index) =
      (slots[index]?.map fun slot => report slot index time).getD [] := by
  induction slots using List.reverseRecOn with
  | nil => rfl
  | append_singleton slots slot ih =>
    rw [allReports_concat, List.filter_append, ih]
    by_cases hlast : slots.length = index
    . subst hlast
      rw [filter_of_slot_eq (hslot slot slots.length time), List.getElem?_eq_none (Nat.le_refl _)]
      simp
    . rw [filter_of_slot_ne hlast (hslot slot slots.length time), List.append_nil]
      rcases Nat.lt_or_gt_of_ne hlast with hlt | hgt
      . rw [List.getElem?_eq_none (Nat.le_of_lt hlt), List.getElem?_eq_none]
        rw [List.length_append, List.length_singleton]
        omega
      . rw [List.getElem?_append_left hgt]

theorem phasesAt_allReports {report : Slot → Nat → UInt64 → List Transition}
    (hslot : ∀ slot index time, ∀ transition ∈ report slot index time, transition.slot = index)
    (slots : List Slot) (time : UInt64) (index : Nat) :
    phasesAt index (allReports report slots time) =
      match slots[index]? with
      | some slot => (report slot index time).map Transition.phase
      | none => [] := by
  unfold phasesAt
  rw [filter_allReports hslot]
  cases slots[index]? <;> rfl

theorem length_allReports_le {report : Slot → Nat → UInt64 → List Transition}
    (hlength : ∀ slot index time, (report slot index time).length ≤ 2) (slots : List Slot)
    (time : UInt64) : (allReports report slots time).length ≤ 2 * slots.length := by
  induction slots using List.reverseRecOn with
  | nil => exact Nat.le_refl _
  | append_singleton slots slot ih =>
    rw [allReports_concat, List.length_append, List.length_append, List.length_singleton]
    have := hlength slot slots.length time
    omega

theorem reports_eq_allReports {report : Slot → Nat → UInt64 → List Transition}
    (hlength : ∀ slot index time, (report slot index time).length ≤ 2) {slots : List Slot}
    (hslots : slots.length ≤ maxSlots) (time : UInt64) :
    reports report slots time = allReports report slots time := by
  unfold reports
  apply List.take_of_length_le
  apply Nat.le_trans (length_allReports_le hlength slots time)
  apply Nat.mul_le_mul_left 2 hslots

structure Sound (tracker : Tracker) : Prop where
  length_slots_le : tracker.slots.length ≤ maxSlots
  slots : ∀ slot ∈ tracker.slots, slot.Sound tracker.protocol

def isOpenAt (tracker : Tracker) (index : Nat) : Bool :=
  (tracker.slots[index]?.map Slot.isOpen).getD false

theorem length_closing (tracker : Tracker) : tracker.closing.length = tracker.slots.length := by
  unfold closing
  split
  . apply List.length_map
  . rfl

theorem length_slots_process (tracker : Tracker) (record : Record) :
    (tracker.process record).1.slots.length = tracker.slots.length := by
  rcases process_cases tracker record with ⟨-, hslots⟩ | ⟨-, hslots, -⟩
  . exact hslots.length_eq.symm
  . rw [hslots, List.length_map, length_closing]

theorem length_slotCount (protocol : Protocol) (count : Nat) :
    slotCount protocol count ≤ maxSlots := by
  unfold slotCount maxSlots
  split <;> omega

theorem sound_new (protocol : Protocol) (count : Nat) : Sound (new protocol count) := by
  constructor
  . unfold new
    rw [List.length_replicate]
    apply length_slotCount
  . intro slot hmem
    rw [List.eq_of_mem_replicate hmem]
    apply Slot.sound_empty

theorem sound_quiet {protocol : Protocol} (hprotocol : protocol.isMultiTouch)
    {slots next : List Slot} (hchange : List.Forall₂ (Slot.Change protocol) slots next)
    (h : ∀ slot ∈ slots, slot.Sound protocol) :
    (∀ slot ∈ next, slot.Sound protocol) ∧ next.map Slot.isOpen = slots.map Slot.isOpen := by
  induction hchange with
  | nil => exact ⟨nofun, rfl⟩
  | cons hslot _ ih =>
    rw [List.forall_mem_cons] at h
    obtain ⟨hsound, hopen⟩ := Slot.sound_change hprotocol hslot h.1
    obtain ⟨hrest, hopens⟩ := ih h.2
    rw [List.forall_mem_cons, List.map_cons, List.map_cons, hopen, hopens]
    exact ⟨⟨hsound, hrest⟩, rfl⟩

theorem owed_closing {tracker : Tracker} (h : tracker.Sound) :
    ∀ slot ∈ tracker.closing, slot.owed.isSome → slot.contact.isDown = false := by
  unfold closing
  split
  . intro slot hmem
    obtain ⟨before, hbefore, rfl⟩ := List.mem_map.1 hmem
    exact (h.slots before hbefore).isDown_of_owed
  . intro slot hmem
    exact (h.slots slot hmem).isDown_of_owed

theorem isNamed_closing {tracker : Tracker} (h : tracker.Sound) :
    ∀ slot ∈ tracker.closing, tracker.protocol = .slotted → slot.contact.isActive →
      slot.contact.trackingId ≠ Kernel.noTracking := by
  intro slot hmem hprotocol
  unfold closing at hmem
  rw [hprotocol, if_neg Protocol.noConfusion] at hmem
  exact (h.slots slot hmem).isNamed hprotocol

theorem isOpen_closing (tracker : Tracker) (index : Nat) :
    (tracker.closing[index]?.map Slot.isOpen).getD false = tracker.isOpenAt index := by
  unfold closing isOpenAt
  split
  . rw [List.getElem?_map, Option.map_map]
    rfl
  . rfl

theorem protocol_perform (tracker : Tracker) (op : Op) :
    (tracker.perform op).1.protocol = tracker.protocol := by
  cases op with
  | process record => apply protocol_process
  | release => rfl

theorem run_closing {tracker : Tracker} (h : tracker.Sound) (time : UInt64) (index : Nat) :
    Stroke.run (tracker.isOpenAt index)
        (phasesAt index (allReports Slot.report tracker.closing time)) =
      some (((tracker.closing.map Slot.settle)[index]?.map Slot.isOpen).getD false) := by
  rw [phasesAt_allReports Slot.slot_of_mem_report, List.getElem?_map, ← isOpen_closing]
  cases hslot : tracker.closing[index]? with
  | none => rfl
  | some slot =>
    have howed := owed_closing h slot (List.mem_of_getElem? hslot)
    exact Slot.run_report howed index time

theorem phasesAt_release {tracker : Tracker} (h : tracker.Sound) (time : UInt64) (index : Nat) :
    phasesAt index (tracker.release time).2 = if tracker.isOpenAt index then [.up] else [] := by
  unfold release isOpenAt
  dsimp only
  rw [reports_eq_allReports Slot.length_releases_le h.length_slots_le,
    phasesAt_allReports Slot.slot_of_mem_releases]
  cases hslot : tracker.slots[index]? with
  | none => rfl
  | some slot =>
    have hsound := h.slots slot (List.mem_of_getElem? hslot)
    exact Slot.map_phase_releases hsound.isDown_of_owed index time

theorem isOpenAt_release (tracker : Tracker) (time : UInt64) (index : Nat) :
    (tracker.release time).1.isOpenAt index = false := by
  unfold release isOpenAt
  dsimp only
  rw [List.getElem?_map]
  cases tracker.slots[index]? <;> rfl

theorem sound_release {tracker : Tracker} (h : tracker.Sound) (time : UInt64) :
    (tracker.release time).1.Sound := by
  constructor
  . unfold release
    rw [List.length_map]
    exact h.length_slots_le
  . intro slot hmem
    obtain ⟨before, -, rfl⟩ := List.mem_map.1 hmem
    apply Slot.sound_clear

theorem sound_process {tracker : Tracker} (hprotocol : tracker.protocol.isMultiTouch)
    (h : tracker.Sound) (record : Record) :
    (tracker.process record).1.Sound ∧
      ∀ index, Stroke.run (tracker.isOpenAt index)
          (phasesAt index ((tracker.process record).2.getD [])) =
        some ((tracker.process record).1.isOpenAt index) := by
  rcases process_cases tracker record with ⟨hframe, hslots⟩ | ⟨hframe, hslots, -⟩
  . -- No frame ends: nothing is reported, and no slot opens or closes.
    obtain ⟨hsound, hopen⟩ := sound_quiet hprotocol hslots h.slots
    constructor
    . constructor
      . rw [← hslots.length_eq]
        exact h.length_slots_le
      . rw [protocol_process]
        exact hsound
    . intro index
      rw [hframe]
      unfold isOpenAt
      rw [← List.getElem?_map, ← List.getElem?_map, hopen]
      rfl
  . -- A frame ends: every slot reports, and settles.
    constructor
    . constructor
      . rw [hslots, List.length_map, length_closing]
        exact h.length_slots_le
      . intro slot hmem
        rw [hslots] at hmem
        obtain ⟨before, hbefore, rfl⟩ := List.mem_map.1 hmem
        rw [protocol_process]
        apply Slot.sound_settle (isNamed_closing h before hbefore)
    . intro index
      have hlength : tracker.closing.length ≤ maxSlots := by
        rw [length_closing]
        exact h.length_slots_le
      rw [hframe, Option.getD_some, reports_eq_allReports Slot.length_report_le hlength,
        run_closing h]
      unfold isOpenAt
      rw [hslots]

theorem sound_perform {tracker : Tracker} (hprotocol : tracker.protocol.isMultiTouch)
    (h : tracker.Sound) (op : Op) :
    (tracker.perform op).1.Sound ∧
      ∀ index, Stroke.run (tracker.isOpenAt index) (phasesAt index (tracker.perform op).2) =
        some ((tracker.perform op).1.isOpenAt index) := by
  cases op with
  | process record => apply sound_process hprotocol h
  | release time =>
    refine ⟨sound_release h time, ?_⟩
    intro index
    unfold perform
    rw [phasesAt_release h, isOpenAt_release]
    cases tracker.isOpenAt index <;> rfl

theorem sound_performAll {tracker : Tracker} (hprotocol : tracker.protocol.isMultiTouch)
    (h : tracker.Sound) (ops : List Op) :
    (tracker.performAll ops).1.Sound ∧
      ∀ index, Stroke.run (tracker.isOpenAt index) (phasesAt index (tracker.performAll ops).2) =
        some ((tracker.performAll ops).1.isOpenAt index) := by
  induction ops generalizing tracker with
  | nil => exact ⟨h, fun _ => rfl⟩
  | cons op ops ih =>
    obtain ⟨hnext, hrun⟩ := sound_perform hprotocol h op
    rw [← protocol_perform tracker op] at hprotocol
    obtain ⟨hlast, hrest⟩ := ih hprotocol hnext
    refine ⟨hlast, ?_⟩
    intro index
    unfold performAll
    dsimp only
    rw [phasesAt_append, Stroke.run_append, hrun]
    apply hrest

theorem isOpenAt_new (protocol : Protocol) (count index : Nat) :
    (new protocol count).isOpenAt index = false := by
  unfold new isOpenAt
  dsimp only
  rw [List.getElem?_replicate]
  split <;> rfl

theorem release_release (tracker : Tracker) (time later : UInt64) :
    ((tracker.release time).1.release later).2 = [] := by
  unfold release reports
  dsimp only
  rw [List.flatMap_eq_nil_iff.2, List.take_nil]
  rintro ⟨slot, index⟩ hmem
  have hslot : slot ∈ tracker.slots.map Slot.clear := by
    apply List.mem_of_getElem? (i := index)
    exact List.mem_zipIdx_iff_getElem?.1 hmem
  obtain ⟨before, -, rfl⟩ := List.mem_map.1 hslot
  rfl

/--
Whatever is done with a tracker of several contacts, each slot reports strokes. A release closes
exactly the strokes that are open, so a second one finds none. No report is lost to the limit of a
frame.
-/
theorem strokes_performAll {protocol : Protocol} (hprotocol : protocol.isMultiTouch) (count : Nat)
    (ops : List Op) :
    let tracker := ((new protocol count).performAll ops).1
    let reported := ((new protocol count).performAll ops).2
    (∀ index, Stroke.Follows (phasesAt index reported)) ∧
      (∀ time index, phasesAt index (tracker.release time).2 =
        if Stroke.IsOpen (phasesAt index reported) then [.up] else []) ∧
      (∀ time later, ((tracker.release time).1.release later).2 = []) ∧
      (∀ record frame, (tracker.process record).2 = some frame →
        frame = allReports Slot.report tracker.closing record.time) ∧
      (∀ time, (tracker.release time).2 = allReports Slot.releases tracker.slots time) ∧
      ∀ (slot : Slot) index time,
        (slot.report index time).length ≤ 2 ∧ (slot.releases index time).length ≤ 2 := by
  intro tracker reported
  have hstart : (new protocol count).protocol.isMultiTouch := hprotocol
  obtain ⟨hsound, hrun⟩ := sound_performAll hstart (sound_new protocol count) ops
  have hphases : ∀ index,
      Stroke.run false (phasesAt index reported) = some (tracker.isOpenAt index) := by
    intro index
    rw [← isOpenAt_new protocol count index]
    apply hrun
  refine ⟨?_, ?_, release_release tracker, ?_, ?_, ?_⟩
  . intro index
    apply Stroke.follows_of_run (hphases index)
  . intro time index
    simp only [Stroke.isOpen_iff_of_run (hphases index)]
    apply phasesAt_release hsound
  . intro record frame hframe
    rcases process_cases tracker record with ⟨hnone, -⟩ | ⟨hsome, -⟩
    . rw [hnone] at hframe
      contradiction
    . rw [hsome] at hframe
      obtain rfl := Option.some.inj hframe
      apply reports_eq_allReports Slot.length_report_le
      rw [length_closing]
      exact hsound.length_slots_le
  . intro time
    apply reports_eq_allReports Slot.length_releases_le hsound.length_slots_le
  . intro slot index time
    exact ⟨Slot.length_report_le slot index time, Slot.length_releases_le slot index time⟩

/--
A contact goes down and is replaced within a frame, and records are lost before the release.
-/
theorem strokes_performAll_replaced :
    let ops : List Op :=
      [.process ⟨0, Kernel.EventType.absolute, Kernel.Axis.trackingId, 4⟩,
        .process (.sync 1),
        .process ⟨2, Kernel.EventType.absolute, Kernel.Axis.trackingId, 5⟩,
        .process ⟨3, Kernel.EventType.sync, Kernel.Sync.dropped, 0⟩,
        .process (.sync 4),
        .process (.sync 5)]
    let tracker := ((new .slotted 2).performAll ops).1
    let reported := ((new .slotted 2).performAll ops).2
    Protocol.slotted.isMultiTouch ∧
      phasesAt 0 reported = [.down, .up, .down] ∧
      phasesAt 0 (tracker.release 9).2 =
        if Stroke.IsOpen (phasesAt 0 reported) then [.up] else [] :=
  ⟨rfl, by decide, (strokes_performAll rfl 2 _).2.1 9 0⟩

end Tracker

end TouchPanel
