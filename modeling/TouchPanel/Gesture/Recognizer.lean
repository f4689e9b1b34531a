import TouchPanel.Gesture.Measure
import TouchPanel.Pointer.Basic
import TouchPanel.Time

/-!
This module contains the machine that follows the primary contact from its down to its up and
reports the gestures of that stroke. The first contact that goes down while none is followed
becomes the primary one; all others pass unnoticed until it lifts.
-/

namespace TouchPanel.Gesture

/--
What is known of the primary contact: where and when it went down, where it was last seen, and how
far it has been from its start.
-/
structure Press where
  id : UInt32
  since : UInt64
  start : Point
  last : Point
  /-- The largest squared distance from the start. -/
  reach : Int
  deriving DecidableEq, Repr

inductive Stage where
  | idle
  | pressed (press : Press)
  | holding (press : Press)
  | dragging (axis : Axis) (press : Press)
  deriving DecidableEq, Repr

inductive Class where
  | idle
  | potential
  | click
  | hold
  | drag (axis : Axis)
  deriving DecidableEq, Repr

def Class.label : Class → String
  | idle => "idle"
  | potential => "potential"
  | click => "click"
  | hold => "hold"
  | drag .horizontal => "drag_horizontal"
  | drag .vertical => "drag_vertical"

inductive Signal where
  | touch (phase : Phase) (id : UInt32) (point : Point) (time : UInt64)
  | tick (time : UInt64)
  deriving DecidableEq, Repr

namespace Press

def fresh (id : UInt32) (point : Point) (time : UInt64) : Press :=
  { id, since := time, start := point, last := point, reach := 0 }

def observe (press : Press) (precision : Precision) (point : Point) : Press :=
  { press with
    last := point
    reach := max press.reach (precision.squaredDistance point press.start) }

def isResting (press : Press) : Bool :=
  press.reach < dragThreshold * dragThreshold

def isHeld (press : Press) (now : UInt64) : Bool :=
  holdThreshold ≤ Time.elapsed press.since now && press.isResting

def gesture (press : Press) (kind : Kind) (now : UInt64) (dx dy : Int) : Gesture :=
  { kind, id := press.id, point := press.last, start := press.start, dx, dy, time := now,
    duration := Time.elapsed press.since now }

end Press

/--
The machine: what the primary contact is doing, and what its stroke, or the one before, is taken
for.
-/
structure Recognizer where
  stage : Stage
  outcome : Class
  deriving DecidableEq, Repr

namespace Stage

def press? : Stage → Option Press
  | idle => none
  | pressed press => some press
  | holding press => some press
  | dragging _ press => some press

def primary? (stage : Stage) : Option UInt32 :=
  stage.press?.map Press.id

def phase : Stage → Class
  | idle => .idle
  | pressed _ => .potential
  | holding _ => .hold
  | dragging axis _ => .drag axis

end Stage

namespace Recognizer

def idle : Recognizer := ⟨.idle, .idle⟩

def enter (stage : Stage) : Recognizer := ⟨stage, stage.phase⟩

def stepPressed (precision : Precision) (recognizer : Recognizer) (press : Press) :
    Signal → Recognizer × List Gesture
  | .tick now =>
    if press.isHeld now then
      (enter (.holding press), [press.gesture .hold now 0 0])
    else
      (recognizer, [])
  | .touch phase id point now =>
    if id ≠ press.id then
      (recognizer, [])
    else
      match phase with
      | .down => (enter (.pressed (Press.fresh id point now)), [])
      | .move =>
        let press := press.observe precision point
        if press.isHeld now then
          (enter (.holding press), [press.gesture .hold now 0 0])
        else
          let dx := point.x - press.start.x
          let dy := point.y - press.start.y
          match precision.dragAxis? dx dy with
          | some axis => (enter (.dragging axis press), [press.gesture (.drag axis) now dx dy])
          | none => ({ recognizer with stage := .pressed press }, [])
      | .up =>
        let press := press.observe precision point
        if press.isHeld now then
          (⟨.idle, .hold⟩, [press.gesture .hold now 0 0])
        else if Time.elapsed press.since now < clickTimeout && press.isResting then
          (⟨.idle, .click⟩, [press.gesture .click now 0 0])
        else
          -- A stroke that comes to nothing is still taken for what it was before its end.
          ({ recognizer with stage := .idle }, [])

def stepHolding (precision : Precision) (recognizer : Recognizer) (press : Press) :
    Signal → Recognizer × List Gesture
  | .touch phase id point _ =>
    if id ≠ press.id then
      (recognizer, [])
    else
      match phase with
      | .down => (recognizer, [])
      | .move => ({ recognizer with stage := .holding (press.observe precision point) }, [])
      | .up => ({ recognizer with stage := .idle }, [])
  | .tick _ => (recognizer, [])

def stepDragging (precision : Precision) (recognizer : Recognizer) (axis : Axis) (press : Press) :
    Signal → Recognizer × List Gesture
  | .touch phase id point now =>
    if id ≠ press.id then
      (recognizer, [])
    else
      match phase with
      | .down => (recognizer, [])
      | .move =>
        let dx := point.x - press.last.x
        let dy := point.y - press.last.y
        let press := press.observe precision point
        ({ recognizer with stage := .dragging axis press },
          if dx ≠ 0 ∨ dy ≠ 0 then [press.gesture (.drag axis) now dx dy] else [])
      | .up =>
        let press := press.observe precision point
        let dx := point.x - press.start.x
        let dy := point.y - press.start.y
        ({ recognizer with stage := .idle },
          [press.gesture (.dragEnd axis (precision.swipe? axis dx)) now dx dy])
  | .tick _ => (recognizer, [])

def step (precision : Precision) (recognizer : Recognizer) (signal : Signal) :
    Recognizer × List Gesture :=
  match recognizer.stage with
  | .idle =>
    match signal with
    | .touch .down id point now => (enter (.pressed (Press.fresh id point now)), [])
    | _ => (recognizer, [])
  | .pressed press => recognizer.stepPressed precision press signal
  | .holding press => recognizer.stepHolding precision press signal
  | .dragging axis press => recognizer.stepDragging precision axis press signal

end Recognizer

end TouchPanel.Gesture
