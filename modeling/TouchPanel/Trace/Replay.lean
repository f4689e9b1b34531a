import TouchPanel.Contact.Calibration
import TouchPanel.Contact.Tracker
import TouchPanel.Gesture.Classifier
import TouchPanel.Kernel.Layout

/-!
This module contains what is done with a recording: the samples that the bytes of a device hold
(`samplesOfDump`), and the gestures that a list of samples makes (`replay`).
-/

namespace TouchPanel.Trace

open Gesture (Classifier)
open Kernel (Layout Record)

def frames : Tracker → List Record → List (Record × List Transition) × Tracker
  | tracker, [] => ([], tracker)
  | tracker, record :: records =>
    let (tracker, frame?) := tracker.process record
    let (rest, tracker) := frames tracker records
    match frame? with
    | some frame => ((record, frame) :: rest, tracker)
    | none => (rest, tracker)

/--
The samples that records of a device hold. Times count in milliseconds from the first record, and
contacts that are down at the end are lifted at the last one.
-/
def samplesOfRecords (capabilities : Device.Capabilities) (records : List Record) : List Sample :=
  match records.head?, records.getLast? with
  | some first, some last =>
    let time (record : Record) : UInt64 := Time.elapsed first.time record.time / 1000
    let calibration := Calibration.ofCapabilities capabilities
    let tracker := Tracker.new capabilities.protocol capabilities.slotCount
    let (frames, tracker) := frames tracker records
    let releases := (tracker.release last.time).2
    (frames ++ [(last, releases)]).flatMap fun (record, transitions) =>
      transitions.map fun transition => calibration.sample transition (time record)
  | _, _ => []

def samplesOfDump (layout : Layout) (capabilities : Device.Capabilities) (bytes : List UInt8) :
    List Sample :=
  samplesOfRecords capabilities (layout.decodeAll bytes)

def notices : Tracker → List Record → List String
  | _, [] => []
  | tracker, record :: records =>
    (tracker.notice? record).toList ++ notices (tracker.process record).1 records

def noticesOfDump (layout : Layout) (capabilities : Device.Capabilities) (bytes : List UInt8) :
    List String :=
  notices (.new capabilities.protocol capabilities.slotCount) (layout.decodeAll bytes)

/--
What a classifier hears of a list of samples: before each of them, time passes up to it.
-/
def signals (reference : Reference) (samples : List Sample) : List Gesture.Signal :=
  samples.flatMap fun sample => [.tick sample.time, Classifier.signal reference sample]

/--
The tick after the last sample, late enough for a press that is still down to become a hold.
-/
def closing (samples : List Sample) : List Gesture.Signal :=
  (samples.getLast?.map fun last => .tick (Time.after last.time Gesture.holdThreshold)).toList

def run (classifier : Classifier) : List Gesture.Signal → List Gesture
  | [] => []
  | signal :: signals =>
    let (classifier, gestures) := classifier.feed signal
    gestures ++ run classifier signals

def replay (reference : Reference) (samples : List Sample) : List Gesture :=
  let classifier := Classifier.new reference
  run classifier (signals classifier.reference samples ++ closing samples)

end TouchPanel.Trace
