import TouchPanel.Settings.Basic
import TouchPanel.Yaml.Document

/-!
This module contains the reading of settings from YAML text. Every field may be left out; a field
that is unknown, given twice, or not of its type is refused.
-/

namespace TouchPanel

open Yaml (Node Scalar)

namespace Settings

def applyFields (setField? : String → Node → α → Option α) (entries : List (Scalar × Node))
    (start : α) : Option α :=
  let names := entries.map fun (key, _) => key.text
  if names.eraseDups.length < names.length then
    none
  else
    entries.foldlM (fun settings (key, node) => setField? key.text node settings) start

/--
Reads the fields of a mapping. Nothing at all counts as a mapping without fields.
-/
def ofFields (setField? : String → Node → α → Option α) (start : α) : Node → Option α
  | .mapping entries => applyFields setField? entries start
  | .scalar s => if s.isPlain && s.text.isEmpty then some start else none

def scalar? : Node → Option Scalar
  | .scalar s => some s
  | .mapping _ => none

def text? (node : Node) : Option String := (scalar? node).map Scalar.text

def bool? (node : Node) : Option Bool := (scalar? node).bind Scalar.bool?

def nat? (limit : Nat) (node : Node) : Option Nat :=
  ((scalar? node).bind Scalar.nat?).filter (· ≤ limit)

def word32? (node : Node) : Option UInt32 := (nat? (UInt32.size - 1) node).map UInt32.ofNat

def word64? (node : Node) : Option UInt64 := (nat? (UInt64.size - 1) node).map UInt64.ofNat

def choice? (label : α → String) (all : List α) (node : Node) : Option α := do
  let name ← (← scalar? node).choice?
  all.find? fun a => label a == name

def optional? (read? : Node → Option α) (node : Node) : Option (Option α) := do
  let isMissing ←
    match node with
    | .scalar s => s.isMissing?
    | .mapping _ => some false
  if isMissing then return none else return some (← read? node)

def setSynthetic? (name : String) (node : Node) (s : SyntheticSettings) :
    Option SyntheticSettings :=
  match name with
  | "pattern" =>
    (optional? (choice? Pattern.label Pattern.all) node).map fun pattern => { s with pattern }
  | "frame_interval_ms" => (word64? node).map fun interval => { s with interval }
  | "duration_ms" => (word64? node).map fun duration => { s with duration }
  | "repeat" => (bool? node).map fun repeats => { s with repeats }
  | _ => none

def setField? (name : String) (node : Node) (s : Settings) : Option Settings :=
  match name with
  | "source" =>
    (choice? ProducerKind.label ProducerKind.all node).map fun producer => { s with producer }
  | "device_path" => (optional? text? node).map fun devicePath => { s with devicePath }
  | "auto_detect_device" => (bool? node).map fun detectsDevice => { s with detectsDevice }
  | "auto_detect_devices" => (bool? node).map fun detectsDevices => { s with detectsDevices }
  | "device_root" => (text? node).map fun deviceRoot => { s with deviceRoot }
  | "mouse_emulation" => (bool? node).map fun drivesMouse => { s with drivesMouse }
  | "reference_width" =>
    (word32? node).map fun width => { s with reference := ⟨width, s.reference.height⟩ }
  | "reference_height" =>
    (word32? node).map fun height => { s with reference := ⟨s.reference.width, height⟩ }
  | "reconnect_attempts" =>
    (word32? node).map fun reconnectAttempts => { s with reconnectAttempts }
  | "reconnect_delay_ms" => (word64? node).map fun reconnectDelay => { s with reconnectDelay }
  | "synthetic" =>
    (ofFields setSynthetic? .standard node).map fun synthetic => { s with synthetic }
  | _ => none

def read (text : String) : Except SettingsFault Settings := do
  let settings? : Option Settings := do
    match ← Yaml.read? text with
    | some node => ofFields setField? standard node
    | none => some standard
  match settings? with
  | none => throw .malformed
  | some settings =>
    settings.validate
    return settings

def load (path : String) (file : Except SystemFault (List UInt8)) : Except SettingsFault Settings :=
  match file with
  | .error cause => .error (.unreadable path cause)
  | .ok bytes =>
    match String.fromUTF8? ⟨bytes.toArray⟩ with
    | some text => read text
    | none => .error (.unreadable path .notText)

end Settings

end TouchPanel
