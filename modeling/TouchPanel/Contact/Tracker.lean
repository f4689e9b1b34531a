import TouchPanel.Contact.Slot
import TouchPanel.Kernel.Record

/-!
This module contains the tracker: it follows the contacts of one device from record to record and
reports, frame by frame, which of them went down, moved and lifted.

After records were lost, the tracker takes no notice of anything up to the end of the frame.
-/

namespace TouchPanel

open Kernel (Record)

structure Tracker where
  protocol : Protocol
  slots : List Slot
  /-- The slot that records are about, unless the device named one that does not exist. -/
  current : Option Nat
  /-- How many anonymous contacts the present frame has closed. -/
  group : Nat
  /-- The present anonymous contact has been given a position or a pressure. -/
  isGroupOpen : Bool
  /-- Records were lost in the present frame. -/
  isDropped : Bool
  droppedFrames : UInt32
  deriving DecidableEq, Repr

namespace Tracker

/--
The most transitions that one frame reports: two for each slot.
-/
def frameCapacity : Nat := 2 * maxSlots

def slotCount (protocol : Protocol) (count : Nat) : Nat :=
  if protocol = .single then 1 else max 1 (min count maxSlots)

def new (protocol : Protocol) (count : Nat) : Tracker :=
  { protocol
    slots := List.replicate (slotCount protocol count) .empty
    current := some 0
    group := 0
    isGroupOpen := false
    isDropped := false
    droppedFrames := 0 }

def contacts (tracker : Tracker) : List Contact :=
  tracker.slots.map Slot.contact

def activeCount (tracker : Tracker) : Nat :=
  tracker.contacts.countP Contact.isActive

def updateSlot (tracker : Tracker) (index : Nat) (change : Slot → Slot) : Tracker :=
  { tracker with slots := tracker.slots.modify index change }

def updateContact (tracker : Tracker) (change : Contact → Contact) : Tracker :=
  match tracker.protocol with
  | .slotted =>
    match tracker.current with
    | some index => tracker.updateSlot index (·.update change)
    | none => tracker
  | .anonymous =>
    if tracker.group < tracker.slots.length then
      { tracker.updateSlot tracker.group (·.update change) with isGroupOpen := true }
    else
      tracker
  | .single => tracker.updateSlot 0 (·.update change)

def selectSlot (tracker : Tracker) (value : Int32) : Tracker :=
  let index := value.toInt
  { tracker with
    current :=
      if 0 ≤ index ∧ index < tracker.slots.length then some index.toNat else none }

def onAxis (tracker : Tracker) (code : UInt16) (value : Int32) : Tracker :=
  let isSingle := tracker.protocol = .single
  if code = Kernel.Axis.slot ∧ tracker.protocol = .slotted then
    tracker.selectSlot value
  else if code = Kernel.Axis.trackingId ∧ tracker.protocol = .slotted then
    match tracker.current with
    | some index => tracker.updateSlot index (·.track value)
    | none => tracker
  else if code = (if isSingle then Kernel.Axis.x else Kernel.Axis.positionX) then
    tracker.updateContact ({ · with x := value })
  else if code = (if isSingle then Kernel.Axis.y else Kernel.Axis.positionY) then
    tracker.updateContact ({ · with y := value })
  else if code = (if isSingle then Kernel.Axis.pressure else Kernel.Axis.contactPressure) then
    tracker.updateContact ({ · with pressure := some value })
  else
    tracker

def onKey (tracker : Tracker) (code : UInt16) (value : Int32) : Tracker :=
  if code = Kernel.Button.touch ∧ tracker.protocol = .single then
    tracker.updateSlot 0 (·.press (value != 0))
  else
    tracker

/--
An anonymous contact is closed. One that was given no position and no pressure is none.
-/
def onContactReport (tracker : Tracker) : Tracker :=
  if tracker.protocol = .anonymous ∧ tracker.isGroupOpen then
    { tracker.updateSlot tracker.group (·.see tracker.group) with
      isGroupOpen := false
      group := tracker.group + 1 }
  else
    tracker

def resetGroups (tracker : Tracker) : Tracker :=
  { tracker with
    slots := tracker.slots.map fun slot => { slot with isSeen := false }
    group := 0
    isGroupOpen := false }

def onDropped (tracker : Tracker) : Tracker :=
  { tracker.resetGroups with
    isDropped := true
    droppedFrames := UInt32.ofNatClamp (tracker.droppedFrames.toNat + 1) }

def reports (report : Slot → Nat → UInt64 → List Transition) (slots : List Slot) (time : UInt64) :
    List Transition :=
  (slots.zipIdx.flatMap fun (slot, index) => report slot index time).take frameCapacity

def finishFrame (tracker : Tracker) (time : UInt64) : Tracker × List Transition :=
  let tracker :=
    if tracker.protocol = .anonymous then
      { tracker with slots := tracker.slots.map Slot.sweep, group := 0, isGroupOpen := false }
    else
      tracker
  ({ tracker with slots := tracker.slots.map Slot.settle },
    reports Slot.report tracker.slots time)

/--
A synchronisation record arrives. The end of a frame gives the frame, unless records were lost in
it.
-/
def onSync (tracker : Tracker) (code : UInt16) (time : UInt64) :
    Tracker × Option (List Transition) :=
  if code = Kernel.Sync.dropped then
    (tracker.onDropped, none)
  else if code = Kernel.Sync.contactReport ∧ !tracker.isDropped then
    (tracker.onContactReport, none)
  else if code = Kernel.Sync.report then
    if tracker.isDropped then
      ({ tracker with isDropped := false }, none)
    else
      let (tracker, frame) := tracker.finishFrame time
      (tracker, some frame)
  else
    (tracker, none)

def process (tracker : Tracker) (record : Record) : Tracker × Option (List Transition) :=
  if record.kind = Kernel.EventType.sync then
    tracker.onSync record.code record.time
  else if tracker.isDropped then
    (tracker, none)
  else if record.kind = Kernel.EventType.absolute then
    (tracker.onAxis record.code record.value, none)
  else if record.kind = Kernel.EventType.key then
    (tracker.onKey record.code record.value, none)
  else
    (tracker, none)

/--
Lifts every contact that a frame has reported as down.
-/
def release (tracker : Tracker) (time : UInt64) : Tracker × List Transition :=
  ({ tracker with slots := tracker.slots.map Slot.clear },
    reports Slot.releases tracker.slots time)

def notice? (tracker : Tracker) (record : Record) : Option String :=
  if record.kind = Kernel.EventType.absolute ∧ !tracker.isDropped ∧
      record.code = Kernel.Axis.slot ∧ tracker.protocol = .slotted ∧
      (tracker.selectSlot record.value).current = none then
    some s!"input: ignoring updates for slot {record.value}"
  else
    none

end Tracker

end TouchPanel
