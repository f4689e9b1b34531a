import TouchPanel.Device.Discovery

/-!
This module contains the descriptions of devices for people.
-/

namespace TouchPanel.Device

open Kernel

def Survey.describeAxis (survey : Survey) (axis : UInt16) : String :=
  let range :=
    match survey.range? axis with
    | some range => range.describe
    | none => "no range"
  s!"  {Axis.label axis} (0x{Text.hexadecimal 2 axis.toNat}): {range}\n"

def Survey.describe (survey : Survey) (path : String) : String :=
  let axes := ((List.range 64).map UInt16.ofNat).filter survey.hasAxis
  let outcome :=
    match survey.capabilities with
    | .ok capabilities => capabilities.describe
    | .error fault => s!"unusable ({(Failure.notTouch fault).message})"
  s!"device: {path}\nname: {survey.title}\nevent types: {survey.types.describe}\n" ++
    String.join (axes.map survey.describeAxis) ++
    s!"keys: BTN_TOUCH={survey.hasKey Button.touch} BTN_LEFT={survey.hasKey Button.left}\n" ++
    s!"touch: {outcome}\n"

def describeAt (opener : Opener) (path : String) : Except Failure String :=
  match opener path with
  | .ok device => .ok (device.survey.describe path)
  | .error cause => .error (.deviceOpen path cause)

def Discovery.describe (entries : List (String × Except SurveyFault Capabilities)) : String :=
  if entries.isEmpty then
    "no readable input nodes\n"
  else
    String.join (entries.map fun (path, outcome) =>
      match outcome with
      | .ok capabilities => s!"{path}: {capabilities.describe}\n"
      | .error fault => s!"{path}: {(Failure.notTouch fault).message}\n")

end TouchPanel.Device
