import TouchPanel.Failure
import TouchPanel.Text.Blank

/-!
This module contains the kinds of producers of events: the host toolkit, a touch panel read
directly, and a generator of synthetic strokes.
-/

namespace TouchPanel

inductive ProducerKind where
  | host
  | panel
  | synthetic
  deriving DecidableEq, Repr

namespace ProducerKind

def label : ProducerKind → String
  | host => "native"
  | panel => "raw-device"
  | synthetic => "synthetic"

def all : List ProducerKind := [host, panel, synthetic]

def names : ProducerKind → List String
  | host => ["native", "sdl"]
  | panel => ["raw-device", "raw_device", "evdev"]
  | synthetic => ["synthetic", "mock"]

def ofName (word : String) : Except Failure ProducerKind :=
  match all.find? fun kind => kind.names.contains (Text.fold word) with
  | some kind => .ok kind
  | none => .error (.unknownProducer (Text.fold word))

end ProducerKind

end TouchPanel
