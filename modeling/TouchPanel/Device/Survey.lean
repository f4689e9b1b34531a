import TouchPanel.Contact.Tracker
import TouchPanel.Device.Capabilities
import TouchPanel.Failure

/-!
This module contains the survey of a device, which is what a device says of itself, and the decision
whether the device is a touch surface, and what it can be used as (`Survey.capabilities`).
-/

namespace TouchPanel.Device

open Kernel

structure Survey where
  name : Option String
  types : EventTypes
  /-- The absolute axes that the device has, as bits. -/
  axes : UInt64
  hasKey : UInt16 → Bool
  range? : UInt16 → Option Range

namespace Survey

/--
The device has an absolute axis. Only the first 64 axes can be asked for.
-/
def hasAxis (survey : Survey) (axis : UInt16) : Bool :=
  axis < 64 && survey.axes.toNat.testBit axis.toNat

def usableRange (survey : Survey) (axis : UInt16) : Except SurveyFault Range :=
  match survey.range? axis with
  | none => .error (.noRange axis)
  | some range =>
    if range.greatest ≤ range.least then
      .error (.emptyRange axis range.least range.greatest)
    else
      .ok range

/--
How the device reports its contacts, and the axes of position and pressure. Axes of several contacts
win over those of a single one.
-/
def layout (survey : Survey) : Except SurveyFault (Protocol × UInt16 × UInt16 × UInt16) :=
  if survey.hasAxis Axis.positionX && survey.hasAxis Axis.positionY then
    .ok (if survey.hasAxis Axis.slot then .slotted else .anonymous,
      Axis.positionX, Axis.positionY, Axis.contactPressure)
  else if survey.hasAxis Axis.x && survey.hasAxis Axis.y then
    .ok (.single, Axis.x, Axis.y, Axis.pressure)
  else
    .error .noPosition

def slotCount (survey : Survey) : Protocol → Nat
  | .single => 1
  | .anonymous => maxSlots
  | .slotted =>
    match survey.range? Axis.slot with
    | some range => min (range.greatest.toInt.toNat + 1) maxSlots
    | none => maxSlots

def uses (survey : Survey) (protocol : Protocol) (hasPressure : Bool) : Uses :=
  Uses.touch ||| Uses.multiTouch.when protocol.isMultiTouch ||| Uses.pressure.when hasPressure |||
    Uses.mouse.when (survey.types.has EventType.relative && survey.hasKey Button.left) |||
    Uses.keyboard.when (survey.hasKey Button.a && survey.hasKey Button.enter)

def title (survey : Survey) : String := survey.name.getD "unknown"

/--
What is known of the device if it is a touch surface. A pressure axis that cannot be used is passed
over.
-/
def capabilities (survey : Survey) : Except SurveyFault Capabilities := do
  if !survey.types.has EventType.absolute then
    throw .noAbsoluteAxes
  let (protocol, xAxis, yAxis, pressureAxis) ← survey.layout
  let x ← survey.usableRange xAxis
  let y ← survey.usableRange yAxis
  let pressure :=
    if survey.hasAxis pressureAxis then (survey.usableRange pressureAxis).toOption else none
  return {
    name := survey.title
    types := survey.types
    uses := survey.uses protocol pressure.isSome
    protocol, x, y, pressure
    slotCount := survey.slotCount protocol }

end Survey

end TouchPanel.Device
