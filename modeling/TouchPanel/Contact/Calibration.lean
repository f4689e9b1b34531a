import TouchPanel.Device.Capabilities

/-!
This module contains the step from the raw transitions of a device to pointer samples.
-/

namespace TouchPanel

/--
The ranges of a device. The slot of a contact is its id on a multi-touch device only.
-/
structure Calibration where
  x : Device.Range
  y : Device.Range
  pressure : Option Device.Range
  isMultiTouch : Bool
  deriving DecidableEq, Repr

namespace Calibration

def ofCapabilities (capabilities : Device.Capabilities) : Calibration :=
  { x := capabilities.x
    y := capabilities.y
    pressure := capabilities.pressure
    isMultiTouch := capabilities.isMultiTouch }

def sample (calibration : Calibration) (transition : Transition) (time : UInt64) : Sample :=
  let id := if calibration.isMultiTouch then UInt32.ofNat transition.slot else 0
  (Sample.clamped transition.phase id (calibration.x.place transition.x)
    (calibration.y.place transition.y) time .touch).withPressure
      (Device.Range.pressure calibration.pressure transition.pressure)

end Calibration

end TouchPanel
