import TouchPanel.Contact.Basic

/-!
This module contains the slots of a tracker: what changes a slot between frames, and what a frame
reports of it.
-/

namespace TouchPanel

structure Slot where
  contact : Contact
  /-- The contact that was down when another one took its place within the present frame. -/
  owed : Option Contact
  /-- The present frame has reported an anonymous contact here. -/
  isSeen : Bool
  deriving DecidableEq, Repr

namespace Slot

def empty : Slot := ⟨.empty, none, false⟩

def update (slot : Slot) (change : Contact → Contact) : Slot :=
  { slot with contact := change slot.contact }

/--
A tracking id arrives: none ends the contact, that of the present contact changes nothing, and any
other one starts a new contact, which leaves an up owed to one that was down.
-/
def track (slot : Slot) (trackingId : Int32) : Slot :=
  let contact := slot.contact
  if trackingId = Kernel.noTracking then
    slot.update ({ · with isActive := false })
  else if contact.isActive ∧ contact.trackingId = trackingId then
    slot
  else
    { slot with
      contact := { contact with trackingId, isActive := true, isDown := false }
      owed := if contact.isDown then some contact else slot.owed }

def press (slot : Slot) (isPressed : Bool) : Slot :=
  if isPressed then
    if slot.contact.isActive then slot
    else slot.update ({ · with trackingId := 0, isActive := true, isDown := false })
  else
    slot.update ({ · with isActive := false })

def see (slot : Slot) (index : Nat) : Slot :=
  let slot :=
    if slot.contact.isActive then slot
    else slot.update
      ({ · with trackingId := Int32.ofInt index, isActive := true, isDown := false })
  { slot with isSeen := true }

/--
A frame of anonymous contacts ends: a contact that it did not report is gone.
-/
def sweep (slot : Slot) : Slot :=
  { slot.update (fun contact => { contact with isActive := contact.isActive && slot.isSeen }) with
    isSeen := false }

def report (slot : Slot) (index : Nat) (time : UInt64) : List Transition :=
  -- The contact that was replaced lifts before the one in its place goes down.
  let contact := slot.contact
  let own : List Transition :=
    if contact.isActive then
      [contact.transition (if contact.isDown then .move else .down) index time]
    else if contact.isDown then
      [contact.transition .up index time]
    else
      []
  (slot.owed.map fun previous => previous.transition .up index time).toList ++ own

/--
A slot after the end of a frame: what was reported is down if it is active.
-/
def settle (slot : Slot) : Slot :=
  { slot.update (fun contact => { contact with isDown := contact.isActive }) with owed := none }

def releases (slot : Slot) (index : Nat) (time : UInt64) : List Transition :=
  let own : List Transition :=
    if slot.contact.isDown then [slot.contact.transition .up index time] else []
  (slot.owed.map fun previous => previous.transition .up index time).toList ++ own

def clear (slot : Slot) : Slot :=
  { slot with contact := .empty, owed := none }

end Slot

end TouchPanel
