import TouchPanel.Contact.Basic
import TouchPanel.Device.Flags
import TouchPanel.Device.Range

/-!
This module contains what is known of a touch surface: its protocol, the ranges of its axes, and
what it can be used as.
-/

namespace TouchPanel.Device

structure Capabilities where
  name : String
  types : EventTypes
  uses : Uses
  protocol : Protocol
  x : Range
  y : Range
  pressure : Option Range
  slotCount : Nat
  deriving DecidableEq, Repr

namespace Capabilities

/--
A slotted panel with axes from zero on, for records that are read away from their device.
-/
def recordedPanel (xMax yMax : Int32) (slotCount : Nat) : Capabilities :=
  { name := "recorded panel"
    types := ⟨11⟩
    uses := Uses.touch ||| Uses.multiTouch
    protocol := .slotted
    x := ⟨0, xMax⟩
    y := ⟨0, yMax⟩
    pressure := none
    slotCount := max 1 (min slotCount maxSlots) }

def isMultiTouch (capabilities : Capabilities) : Bool :=
  capabilities.uses.has .multiTouch

def describe (capabilities : Capabilities) : String :=
  let pressure :=
    match capabilities.pressure with
    | some range => range.describe
    | none => "none"
  s!"name=\"{capabilities.name}\" protocol={capabilities.protocol.label} " ++
    s!"slots={capabilities.slotCount} x={capabilities.x.describe} " ++
    s!"y={capabilities.y.describe} pressure={pressure} " ++
    s!"flags={capabilities.uses.describe} events={capabilities.types.describe}"

end Capabilities

end TouchPanel.Device
