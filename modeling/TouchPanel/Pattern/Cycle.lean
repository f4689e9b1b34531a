import TouchPanel.Binary.Single
import TouchPanel.Pattern.Basic
import TouchPanel.Time

/-!
This module contains the course of a pattern: where its contacts are at a time, and the frames of
one cycle.

The frames stand at the multiples of an interval below the duration, and the last one at the
duration itself.
-/

namespace TouchPanel

structure Spot where
  id : UInt32
  x : Float32
  y : Float32
  deriving DecidableEq, Repr

namespace Pattern

def tapTime : UInt64 := 80

def between (start stop part : Float) : Float := start + (stop - start) * part

def spot (id : UInt32) (x y : Float) : Spot :=
  ⟨id, Binary.narrow x, Binary.narrow y⟩

/--
The contacts at a part of the cycle, for a pattern that is down all the time. The circle has a
radius of a quarter about the centre, the swipe goes from left to right, and the pinch brings two
contacts together.
-/
def spotsAtPart (pattern : Pattern) (part : Float) : List Spot :=
  match pattern with
  | tap => [spot 0 0.5 0.5]
  | swipe => [spot 0 (between 0.1 0.9 part) 0.5]
  | circle =>
    let angle := 6.283185307179586 * part
    [spot 0 (0.5 + 0.25 * angle.cos) (0.5 + 0.25 * angle.sin)]
  | pinch =>
    let offset := between 0.3 0.05 part
    [spot 0 (0.5 - offset) 0.5, spot 1 (0.5 + offset) 0.5]

def spotsAt (pattern : Pattern) (time duration : UInt64) : List Spot :=
  let duration := max duration 1
  let time := min time duration
  if pattern = tap ∧ min tapTime duration ≤ time then
    []
  else
    pattern.spotsAtPart (time.toFloat / duration.toFloat)

/--
The contacts at one time of a cycle. What is down in the last frame lifts there.
-/
structure Frame where
  time : UInt64
  spots : List Spot
  isLast : Bool
  deriving DecidableEq, Repr

/--
One cycle of a pattern, up to the time of its next frame if there is one.
-/
structure Cycle where
  pattern : Pattern
  interval : UInt64
  duration : UInt64
  upcoming : Option UInt64
  deriving DecidableEq, Repr

namespace Cycle

/--
A cycle from its start. Times of zero count as one.
-/
def new (pattern : Pattern) (interval duration : UInt64) : Cycle :=
  { pattern, interval := max interval 1, duration := max duration 1, upcoming := some 0 }

def next? (cycle : Cycle) : Option (Frame × Cycle) :=
  cycle.upcoming.map fun time =>
    let isLast := decide (cycle.duration ≤ time)
    let upcoming :=
      if isLast then none else some (min (Time.after time cycle.interval) cycle.duration)
    ({ time, spots := cycle.pattern.spotsAt time cycle.duration, isLast }, { cycle with upcoming })

def take (cycle : Cycle) : Nat → List Frame
  | 0 => []
  | count + 1 =>
    match cycle.next? with
    | none => []
    | some (frame, cycle) => frame :: cycle.take count

end Cycle

end Pattern

end TouchPanel
