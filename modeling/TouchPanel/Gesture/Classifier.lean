import TouchPanel.Binary.Single
import TouchPanel.Gesture.Recognizer

/-!
This module contains the classifier: it places samples on the pixels of a reference surface before
any threshold is applied, so that the same trace is classified alike whatever the resolution of the
device that it came from.
-/

namespace TouchPanel

structure Reference where
  width : UInt32
  height : UInt32
  deriving DecidableEq, Repr

namespace Reference

def standard : Reference := ⟨800, 480⟩

def positive (reference : Reference) : Reference :=
  ⟨max reference.width 1, max reference.height 1⟩

def pixel (coordinate : Float32) (count : UInt32) : Int :=
  Gesture.Precision.word.keep
    (Binary.nearestInt (Binary.clampUnit coordinate * count.toFloat32))

def point (reference : Reference) (sample : Sample) : Gesture.Point :=
  ⟨pixel sample.x reference.width, pixel sample.y reference.height⟩

end Reference

namespace Gesture

def outputCapacity : Nat := 3

structure Classifier where
  reference : Reference
  recognizer : Recognizer
  deriving DecidableEq, Repr

namespace Classifier

def new (reference : Reference) : Classifier :=
  ⟨reference.positive, .idle⟩

def signal (reference : Reference) (sample : Sample) : Signal :=
  .touch sample.phase sample.id (reference.point sample) sample.time

def feed (classifier : Classifier) (signal : Signal) : Classifier × List Gesture :=
  let (recognizer, gestures) := classifier.recognizer.step .word signal
  ({ classifier with recognizer }, gestures.take outputCapacity)

def handle (classifier : Classifier) (sample : Sample) : Classifier × List Gesture :=
  classifier.feed (signal classifier.reference sample)

/--
Time passes: a press at rest becomes a hold without waiting for the next sample.
-/
def tick (classifier : Classifier) (now : UInt64) : Classifier × List Gesture :=
  classifier.feed (.tick now)

end Classifier

end Gesture

end TouchPanel
