import TouchPanel.Kernel.Code
import TouchPanel.Pointer.Basic

/-!
This module contains the contacts of a touch surface in raw units: what is known of the contact in a
slot, and the transitions that a frame brings.
-/

namespace TouchPanel

inductive Protocol where
  /-- In slots, each contact with a tracking id. -/
  | slotted
  /-- One after another without names, each closed by a record of its own. -/
  | anonymous
  /-- A single contact, closed and opened by a button. -/
  | single
  deriving DecidableEq, Repr

namespace Protocol

def label : Protocol → String
  | slotted => "mt-slots"
  | anonymous => "mt-anonymous"
  | single => "single-touch"

def isMultiTouch (protocol : Protocol) : Bool := protocol != single

end Protocol

def maxSlots : Nat := 10

structure Contact where
  trackingId : Int32
  x : Int32
  y : Int32
  pressure : Option Int32
  /-- The contact touches the surface. -/
  isActive : Bool
  /-- A frame has reported the contact as down. -/
  isDown : Bool
  deriving DecidableEq, Repr

def Contact.empty : Contact :=
  { trackingId := Kernel.noTracking, x := 0, y := 0, pressure := none, isActive := false,
    isDown := false }

/--
A change of the contact in a slot, in raw units. Times are in microseconds.
-/
structure Transition where
  phase : Phase
  slot : Nat
  x : Int32
  y : Int32
  pressure : Option Int32
  time : UInt64
  deriving DecidableEq, Repr

def Contact.transition (contact : Contact) (phase : Phase) (slot : Nat) (time : UInt64) :
    Transition :=
  { phase, slot, x := contact.x, y := contact.y, pressure := contact.pressure, time }

end TouchPanel
