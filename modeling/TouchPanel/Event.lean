import TouchPanel.Pointer.Basic

/-!
This module contains the events that reach a consumer: pointer samples, mouse events in pixels, and
keys.
-/

namespace TouchPanel

inductive MouseButton where
  | left
  | middle
  | right
  deriving DecidableEq, Repr

inductive MouseAction where
  | press (button : MouseButton)
  | release (button : MouseButton)
  | motion
  deriving DecidableEq, Repr

/--
A mouse event at a pixel of the reference surface.
-/
structure MouseEvent where
  action : MouseAction
  x : Int32
  y : Int32
  time : UInt64
  deriving DecidableEq, Repr

structure KeyEvent where
  scancode : UInt32
  isPressed : Bool
  time : UInt64
  deriving DecidableEq, Repr

inductive Event where
  | pointer (sample : Sample)
  | mouse (event : MouseEvent)
  | key (event : KeyEvent)
  deriving DecidableEq, Repr

namespace Event

def time : Event → UInt64
  | pointer sample => sample.time
  | mouse event => event.time
  | key event => event.time

def withTime (time : UInt64) : Event → Event
  | pointer sample => pointer { sample with time }
  | mouse event => mouse { event with time }
  | key event => key { event with time }

def sample? : Event → Option Sample
  | pointer sample => some sample
  | _ => none

end Event

end TouchPanel
