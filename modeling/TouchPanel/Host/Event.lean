import TouchPanel.Event

/-!
This module contains the events of the host toolkit, and the toolkit's form of the events that
reach a consumer.
-/

namespace TouchPanel.Host

structure Finger where
  id : UInt32
  x : Float32
  y : Float32
  pressure : Float32
  time : UInt64
  deriving DecidableEq, Repr

inductive Event where
  | finger (phase : Phase) (finger : Finger)
  | button (isPressed : Bool) (button : MouseButton) (x y : Int32) (time : UInt64)
  | motion (x y : Int32) (time : UInt64)
  | key (isPressed : Bool) (scancode : UInt32) (time : UInt64)
  /-- Windows and other things that are no input. -/
  | other
  deriving DecidableEq, Repr

def Event.ofEvent : TouchPanel.Event → Event
  | .pointer sample =>
    .finger sample.phase
      { id := sample.id, x := sample.x, y := sample.y, pressure := sample.pressure,
        time := sample.time }
  | .mouse event =>
    match event.action with
    | .press pressed => .button true pressed event.x event.y event.time
    | .release released => .button false released event.x event.y event.time
    | .motion => .motion event.x event.y event.time
  | .key event => .key event.isPressed event.scancode event.time

/--
The events of the toolkit that wait to be read, and how many touch devices it has.
-/
structure Pump where
  events : List Event
  touchDevices : Nat
  deriving DecidableEq, Repr

namespace Pump

def pushAll (pump : Pump) (events : List Event) : Pump :=
  { pump with events := pump.events ++ events }

def push (pump : Pump) (event : Event) : Pump :=
  pump.pushAll [event]

def poll (pump : Pump) : Option Event × Pump :=
  (pump.events.head?, { pump with events := pump.events.drop 1 })

end Pump

end TouchPanel.Host
