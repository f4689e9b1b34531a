import TouchPanel.Gesture.Classifier
import TouchPanel.Pattern.Basic
import TouchPanel.Producer.Kind

/-!
This module contains the settings of a session, the values where none are given, and the faults that
settings can have.
-/

namespace TouchPanel

/--
The settings of the generator of strokes. Without a pattern only scripted events are produced.
-/
structure SyntheticSettings where
  pattern : Option Pattern
  interval : UInt64
  duration : UInt64
  repeats : Bool
  deriving DecidableEq, Repr

def SyntheticSettings.standard : SyntheticSettings :=
  { pattern := some .swipe, interval := 16, duration := 1000, repeats := true }

/--
The settings of a session. Reconnecting is left to the user of the library.
-/
structure Settings where
  producer : ProducerKind
  devicePath : Option String
  detectsDevice : Bool
  detectsDevices : Bool
  deviceRoot : String
  drivesMouse : Bool
  reference : Reference
  reconnectAttempts : UInt32
  reconnectDelay : UInt64
  synthetic : SyntheticSettings
  deriving DecidableEq, Repr

namespace Settings

def standard : Settings :=
  { producer := .panel
    devicePath := none
    detectsDevice := true
    detectsDevices := true
    deviceRoot := "/dev/input"
    drivesMouse := false
    reference := .standard
    reconnectAttempts := 3
    reconnectDelay := 1000
    synthetic := .standard }

def ofPattern (pattern : Option Pattern) : Settings :=
  { standard with
    producer := .synthetic
    synthetic := { SyntheticSettings.standard with pattern } }

def searchesDevice (settings : Settings) : Bool :=
  settings.detectsDevice && settings.detectsDevices

def validate (settings : Settings) : Except SettingsFault Unit := do
  if settings.reference.width = 0 ∨ settings.reference.height = 0 then
    throw (.emptyReference settings.reference.width settings.reference.height)
  if settings.producer = .panel ∧ settings.devicePath.isNone ∧ !settings.searchesDevice then
    throw .noDeviceNamed
  if settings.producer = .synthetic then
    if settings.synthetic.interval = 0 then
      throw .emptyInterval
    if settings.synthetic.duration = 0 then
      throw .emptyDuration

end Settings

end TouchPanel
