/-!
This module contains the codes by which the kernel names what an input device reports: event types,
synchronisation codes, absolute axes and keys.
-/

namespace TouchPanel.Kernel

namespace EventType

def sync : UInt16 := 0x00
def key : UInt16 := 0x01
def relative : UInt16 := 0x02
def absolute : UInt16 := 0x03
def misc : UInt16 := 0x04

def label (code : UInt16) : String :=
  if code = sync then "EV_SYN"
  else if code = key then "EV_KEY"
  else if code = relative then "EV_REL"
  else if code = absolute then "EV_ABS"
  else if code = misc then "EV_MSC"
  else "EV_?"

end EventType

namespace Sync

def report : UInt16 := 0

/--
The end of one anonymous contact.
-/
def contactReport : UInt16 := 2

/--
Records were lost: nothing counts up to the end of the frame.
-/
def dropped : UInt16 := 3

end Sync

namespace Axis

def x : UInt16 := 0x00
def y : UInt16 := 0x01
def pressure : UInt16 := 0x18
def slot : UInt16 := 0x2f
def touchMajor : UInt16 := 0x30
def positionX : UInt16 := 0x35
def positionY : UInt16 := 0x36
def trackingId : UInt16 := 0x39
def contactPressure : UInt16 := 0x3a

def label (code : UInt16) : String :=
  if code = x then "ABS_X"
  else if code = y then "ABS_Y"
  else if code = pressure then "ABS_PRESSURE"
  else if code = slot then "ABS_MT_SLOT"
  else if code = touchMajor then "ABS_MT_TOUCH_MAJOR"
  else if code = positionX then "ABS_MT_POSITION_X"
  else if code = positionY then "ABS_MT_POSITION_Y"
  else if code = trackingId then "ABS_MT_TRACKING_ID"
  else if code = contactPressure then "ABS_MT_PRESSURE"
  else "ABS_?"

end Axis

namespace Button

def enter : UInt16 := 28
def a : UInt16 := 30
def left : UInt16 := 0x110
def touch : UInt16 := 0x14a

end Button

/--
The tracking id of a slot whose contact has lifted.
-/
def noTracking : Int32 := -1

end TouchPanel.Kernel
