import Mathlib.Data.List.Forall2
import TouchPanel.Contact.Tracker

/-!
This module contains the runs of a tracker: what one record does to the slots, and what a list of
records and releases reports.

Main statement: `Tracker.process_cases` says once what a record can do. Either no frame ends and
each slot undergoes one of the changes of `Slot.Change`, or a frame ends that reports and settles
every slot.
-/

namespace TouchPanel

open Kernel (Record)

namespace Slot

def onAxis (protocol : Protocol) (code : UInt16) (value : Int32) (slot : Slot) : Slot :=
  let isSingle := protocol = .single
  if code = Kernel.Axis.slot ∧ protocol = .slotted then
    slot
  else if code = Kernel.Axis.trackingId ∧ protocol = .slotted then
    slot.track value
  else if code = (if isSingle then Kernel.Axis.x else Kernel.Axis.positionX) then
    slot.update ({ · with x := value })
  else if code = (if isSingle then Kernel.Axis.y else Kernel.Axis.positionY) then
    slot.update ({ · with y := value })
  else if code = (if isSingle then Kernel.Axis.pressure else Kernel.Axis.contactPressure) then
    slot.update ({ · with pressure := some value })
  else
    slot

def hear (protocol : Protocol) (record : Record) (slot : Slot) : Slot :=
  if record.kind = Kernel.EventType.absolute then
    slot.onAxis protocol record.code record.value
  else if record.kind = Kernel.EventType.key ∧ record.code = Kernel.Button.touch ∧
      protocol = .single then
    slot.press (record.value != 0)
  else
    slot

inductive Change (protocol : Protocol) : Slot → Slot → Prop where
  | rest (slot : Slot) : Change protocol slot slot
  | hear (record : Record) (slot : Slot) : Change protocol slot (slot.hear protocol record)
  | see (index : Nat) (slot : Slot) (h : protocol = .anonymous) :
    Change protocol slot (slot.see index)
  | forget (slot : Slot) : Change protocol slot { slot with isSeen := false }

end Slot

namespace Tracker

def target? (tracker : Tracker) : Option Nat :=
  match tracker.protocol with
  | .slotted => tracker.current
  | .anonymous => if tracker.group < tracker.slots.length then some tracker.group else none
  | .single => some 0

def modifyTarget (tracker : Tracker) (change : Slot → Slot) : List Slot :=
  match tracker.target? with
  | some index => tracker.slots.modify index change
  | none => tracker.slots

/--
The slots as the end of a frame finds them.
-/
def closing (tracker : Tracker) : List Slot :=
  if tracker.protocol = .anonymous then tracker.slots.map Slot.sweep else tracker.slots

def allReports (report : Slot → Nat → UInt64 → List Transition) (slots : List Slot)
    (time : UInt64) : List Transition :=
  slots.zipIdx.flatMap fun (slot, index) => report slot index time

inductive Op where
  | process (record : Record)
  | release (time : UInt64)
  deriving DecidableEq, Repr

def perform (tracker : Tracker) : Op → Tracker × List Transition
  | .process record => ((tracker.process record).1, (tracker.process record).2.getD [])
  | .release time => tracker.release time

def performAll (tracker : Tracker) : List Op → Tracker × List Transition
  | [] => (tracker, [])
  | op :: ops =>
    let (next, transitions) := tracker.perform op
    let (last, rest) := next.performAll ops
    (last, transitions ++ rest)

def phasesAt (slot : Nat) (transitions : List Transition) : List Phase :=
  (transitions.filter fun transition => transition.slot == slot).map Transition.phase

theorem modifyTarget_self (tracker : Tracker) :
    tracker.modifyTarget (fun slot => slot) = tracker.slots := by
  unfold modifyTarget
  split
  . apply List.modify_id
  . rfl

theorem slots_updateContact (tracker : Tracker) (change : Contact → Contact) :
    (tracker.updateContact change).slots = tracker.modifyTarget (·.update change) := by
  unfold updateContact modifyTarget target?
  cases tracker.protocol with
  | slotted => cases tracker.current <;> rfl
  | anonymous =>
    dsimp only
    split <;> rfl
  | single => rfl

theorem slots_onAxis (tracker : Tracker) (code : UInt16) (value : Int32) :
    (tracker.onAxis code value).slots =
      tracker.modifyTarget (·.onAxis tracker.protocol code value) := by
  unfold onAxis Slot.onAxis
  dsimp only
  generalize (if tracker.protocol = .single then _ else _) = xCode
  generalize (if tracker.protocol = .single then _ else _) = yCode
  generalize (if tracker.protocol = .single then _ else _) = pressureCode
  split
  . rw [modifyTarget_self]
    rfl
  . split
    . next h =>
      unfold modifyTarget target?
      rw [h.2]
      cases tracker.current <;> rfl
    . split
      . apply slots_updateContact
      . split
        . apply slots_updateContact
        . split
          . apply slots_updateContact
          . rw [modifyTarget_self]

theorem slots_onKey (tracker : Tracker) (code : UInt16) (value : Int32) :
    (tracker.onKey code value).slots =
      if code = Kernel.Button.touch ∧ tracker.protocol = .single then
        tracker.modifyTarget (·.press (value != 0))
      else
        tracker.slots := by
  unfold onKey
  split
  . next h =>
    unfold modifyTarget target?
    rw [h.2]
    rfl
  . rfl

theorem slots_process {tracker : Tracker} {record : Record}
    (hkind : record.kind ≠ Kernel.EventType.sync) (hdropped : tracker.isDropped = false) :
    (tracker.process record).1.slots = tracker.modifyTarget (·.hear tracker.protocol record) := by
  unfold process Slot.hear
  rw [if_neg hkind, hdropped, if_neg Bool.false_ne_true]
  split
  . apply slots_onAxis
  . by_cases hkey : record.kind = Kernel.EventType.key
    . simp only [hkey, if_true, true_and, slots_onKey]
      split
      . rfl
      . rw [modifyTarget_self]
    . simp only [hkey, if_false, false_and, modifyTarget_self]

structure Keeps (tracker next : Tracker) : Prop where
  protocol : next.protocol = tracker.protocol
  current : next.current = tracker.current
  isDropped : next.isDropped = tracker.isDropped

theorem keeps_refl (tracker : Tracker) : Keeps tracker tracker := ⟨rfl, rfl, rfl⟩

theorem keeps_updateSlot (tracker : Tracker) (index : Nat) (change : Slot → Slot) :
    Keeps tracker (tracker.updateSlot index change) := ⟨rfl, rfl, rfl⟩

theorem keeps_updateContact (tracker : Tracker) (change : Contact → Contact) :
    Keeps tracker (tracker.updateContact change) := by
  unfold updateContact
  split
  . split
    . apply keeps_updateSlot
    . apply keeps_refl
  . split
    . exact ⟨rfl, rfl, rfl⟩
    . apply keeps_refl
  . apply keeps_updateSlot

theorem keeps_onAxis {tracker : Tracker} {code : UInt16}
    (h : ¬(code = Kernel.Axis.slot ∧ tracker.protocol = .slotted)) (value : Int32) :
    Keeps tracker (tracker.onAxis code value) := by
  unfold onAxis
  dsimp only
  generalize (if tracker.protocol = .single then _ else _) = xCode
  generalize (if tracker.protocol = .single then _ else _) = yCode
  generalize (if tracker.protocol = .single then _ else _) = pressureCode
  rw [if_neg h]
  split
  . split
    . apply keeps_updateSlot
    . apply keeps_refl
  . split
    . apply keeps_updateContact
    . split
      . apply keeps_updateContact
      . split
        . apply keeps_updateContact
        . apply keeps_refl

theorem keeps_onKey (tracker : Tracker) (code : UInt16) (value : Int32) :
    Keeps tracker (tracker.onKey code value) := by
  unfold onKey
  split
  . apply keeps_updateSlot
  . apply keeps_refl

theorem onAxis_slot {tracker : Tracker} (h : tracker.protocol = .slotted) (value : Int32) :
    tracker.onAxis Kernel.Axis.slot value = tracker.selectSlot value := by
  unfold onAxis
  rw [if_pos ⟨rfl, h⟩]

theorem process_keeps {tracker : Tracker} {record : Record}
    (hkind : record.kind ≠ Kernel.EventType.sync) :
    Keeps tracker (tracker.process record).1 ∨
      (tracker.process record).1 = tracker.selectSlot record.value := by
  unfold process
  rw [if_neg hkind]
  split
  . exact Or.inl (keeps_refl tracker)
  . split
    . by_cases hslot : record.code = Kernel.Axis.slot ∧ tracker.protocol = .slotted
      . apply Or.inr
        rw [hslot.1]
        exact onAxis_slot hslot.2 record.value
      . exact Or.inl (keeps_onAxis hslot record.value)
    . split
      . exact Or.inl (keeps_onKey tracker record.code record.value)
      . exact Or.inl (keeps_refl tracker)

theorem protocol_finishFrame (tracker : Tracker) (time : UInt64) :
    (tracker.finishFrame time).1.protocol = tracker.protocol := by
  unfold finishFrame
  dsimp only
  split <;> rfl

theorem protocol_onSync (tracker : Tracker) (code : UInt16) (time : UInt64) :
    (tracker.onSync code time).1.protocol = tracker.protocol := by
  unfold onSync onContactReport
  split
  . rfl
  . split
    . dsimp only
      split <;> rfl
    . split
      . split
        . rfl
        . exact protocol_finishFrame tracker time
      . rfl

theorem protocol_process (tracker : Tracker) (record : Record) :
    (tracker.process record).1.protocol = tracker.protocol := by
  by_cases hkind : record.kind = Kernel.EventType.sync
  . unfold process
    rw [if_pos hkind]
    apply protocol_onSync
  . rcases process_keeps hkind with hkeeps | hselect
    . exact hkeeps.protocol
    . rw [hselect]
      rfl

theorem slots_finishFrame (tracker : Tracker) (time : UInt64) :
    (tracker.finishFrame time).1.slots = tracker.closing.map Slot.settle := by
  unfold finishFrame closing
  dsimp only
  split <;> rfl

theorem reports_finishFrame (tracker : Tracker) (time : UInt64) :
    (tracker.finishFrame time).2 = reports Slot.report tracker.closing time := by
  unfold finishFrame closing
  dsimp only
  split <;> rfl

theorem isDropped_finishFrame (tracker : Tracker) (time : UInt64) :
    (tracker.finishFrame time).1.isDropped = tracker.isDropped := by
  unfold finishFrame
  dsimp only
  split <;> rfl

theorem forall₂_modify {R : Slot → Slot → Prop} {change : Slot → Slot} (hrest : ∀ slot, R slot slot)
    (hchange : ∀ slot, R slot (change slot)) (slots : List Slot) (index : Nat) :
    List.Forall₂ R slots (slots.modify index change) := by
  induction slots generalizing index with
  | nil => simp
  | cons slot slots ih =>
    cases index with
    | zero =>
      rw [List.modify_zero_cons]
      apply List.Forall₂.cons
      . apply hchange
      . apply List.forall₂_same.2
        intros
        apply hrest
    | succ index =>
      rw [List.modify_succ_cons]
      apply List.Forall₂.cons
      . apply hrest
      . apply ih

theorem forall₂_map {R : Slot → Slot → Prop} {change : Slot → Slot}
    (hchange : ∀ slot, R slot (change slot)) (slots : List Slot) :
    List.Forall₂ R slots (slots.map change) := by
  apply List.forall₂_map_right_iff.2
  apply List.forall₂_same.2
  intros
  apply hchange

theorem forall₂_rest (protocol : Protocol) (slots : List Slot) :
    List.Forall₂ (Slot.Change protocol) slots slots := by
  apply List.forall₂_same.2
  intros
  apply Slot.Change.rest

theorem onSync_report (tracker : Tracker) (time : UInt64) :
    tracker.onSync Kernel.Sync.report time =
      if tracker.isDropped then ({ tracker with isDropped := false }, none)
      else ((tracker.finishFrame time).1, some (tracker.finishFrame time).2) := by
  unfold onSync
  have hdropped : Kernel.Sync.report ≠ Kernel.Sync.dropped := by decide
  have hcontact : Kernel.Sync.report ≠ Kernel.Sync.contactReport := by decide
  rw [if_neg hdropped, if_neg (not_and_of_not_left _ hcontact), if_pos rfl]

theorem onSync_cases (tracker : Tracker) (code : UInt16) (time : UInt64) :
    ((tracker.onSync code time).2 = none ∧
      List.Forall₂ (Slot.Change tracker.protocol) tracker.slots
        (tracker.onSync code time).1.slots) ∨
    ((tracker.onSync code time).2 = some (reports Slot.report tracker.closing time) ∧
      (tracker.onSync code time).1.slots = tracker.closing.map Slot.settle ∧
      (tracker.onSync code time).1.isDropped = false) := by
  unfold onSync
  split
  . apply Or.inl
    refine ⟨rfl, ?_⟩
    apply forall₂_map
    apply Slot.Change.forget
  . split
    . apply Or.inl
      refine ⟨rfl, ?_⟩
      unfold onContactReport
      dsimp only
      split
      . next h =>
        apply forall₂_modify
        . apply Slot.Change.rest
        . intro slot
          apply Slot.Change.see
          exact h.1
      . apply forall₂_rest
    . split
      . split
        . apply Or.inl
          refine ⟨rfl, ?_⟩
          apply forall₂_rest
        . next hdropped =>
          apply Or.inr
          dsimp only
          rw [slots_finishFrame, reports_finishFrame, isDropped_finishFrame]
          exact ⟨rfl, rfl, eq_false_of_ne_true hdropped⟩
      . apply Or.inl
        refine ⟨rfl, ?_⟩
        apply forall₂_rest

theorem process_cases (tracker : Tracker) (record : Record) :
    ((tracker.process record).2 = none ∧
      List.Forall₂ (Slot.Change tracker.protocol) tracker.slots (tracker.process record).1.slots) ∨
    ((tracker.process record).2 = some (reports Slot.report tracker.closing record.time) ∧
      (tracker.process record).1.slots = tracker.closing.map Slot.settle ∧
      (tracker.process record).1.isDropped = false) := by
  by_cases hkind : record.kind = Kernel.EventType.sync
  . have hprocess : tracker.process record = tracker.onSync record.code record.time := by
      unfold process
      rw [if_pos hkind]
    rw [hprocess]
    apply onSync_cases
  . apply Or.inl
    cases hdropped : tracker.isDropped with
    | true =>
      have hprocess : tracker.process record = (tracker, none) := by
        unfold process
        rw [if_neg hkind, hdropped]
        rfl
      rw [hprocess]
      refine ⟨rfl, ?_⟩
      apply forall₂_rest
    | false =>
      rw [slots_process hkind hdropped]
      constructor
      . unfold process
        rw [if_neg hkind, hdropped, if_neg Bool.false_ne_true]
        split
        . rfl
        . split <;> rfl
      . unfold modifyTarget
        split
        . apply forall₂_modify
          . apply Slot.Change.rest
          . apply Slot.Change.hear
        . apply forall₂_rest

end Tracker

end TouchPanel
