import TouchPanel.Host.Event
import TouchPanel.Host.Pixels
import TouchPanel.Inbox.Basic
import TouchPanel.Producer.Status
import TouchPanel.Settings.Basic

/-!
This module contains the producer that passes on the events of the host toolkit. It has no worker:
the consumer lets it pull from the pump of the host.

While the left mouse button is held, the mouse counts as a contact.
-/

namespace TouchPanel

structure Relay where
  pump : Option Host.Pump
  isAttached : Bool
  reference : Reference
  isLeftHeld : Bool
  status : Status
  deriving DecidableEq, Repr

namespace Relay

def new (pump : Option Host.Pump) : Relay :=
  { pump, isAttached := false, reference := ⟨1, 1⟩, isLeftHeld := false, status := .idle }

def prepare (relay : Relay) (settings : Settings) : Except Failure Relay :=
  if relay.pump.isNone then
    .error (.settings .noPump)
  else
    .ok { relay with reference := settings.reference, status := .prepared }

def start (relay : Relay) : Except Failure Relay :=
  match relay.status with
  | .idle => .error .notPrepared
  | .running => .error .alreadyRunning
  | _ => .ok { relay with isAttached := true, isLeftHeld := false, status := .running }

def stop (relay : Relay) : Relay :=
  if relay.isAttached then { relay with isAttached := false, status := .stopped } else relay

def mouseSample (reference : Reference) (now : UInt64) (phase : Phase) (x y : Int32) : Event :=
  .pointer (Sample.clamped phase 0 (Reference.coordinate x reference.width)
    (Reference.coordinate y reference.height) now .mouse)

def convert (reference : Reference) (now : UInt64) (isLeftHeld : Bool) :
    Host.Event → Bool × Option Event
  | .finger phase finger =>
    (isLeftHeld, some (.pointer ((Sample.clamped phase finger.id finger.x finger.y now
      .touch).withPressure finger.pressure)))
  | .button isPressed .left x y _ =>
    (isPressed, some (mouseSample reference now (if isPressed then .down else .up) x y))
  | .button isPressed button x y _ =>
    let action := if isPressed then .press button else .release button
    (isLeftHeld, some (.mouse { action, x, y, time := now }))
  | .motion x y _ =>
    if isLeftHeld then
      (isLeftHeld, some (mouseSample reference now .move x y))
    else
      (isLeftHeld, some (.mouse { action := .motion, x, y, time := now }))
  | .key isPressed scancode _ => (isLeftHeld, some (.key { scancode, isPressed, time := now }))
  | .other => (isLeftHeld, none)

/--
What pulling leaves behind: whether the left button is held, the events that are still in the pump,
and the inbox.
-/
structure Pulled where
  isLeftHeld : Bool
  rest : List Host.Event
  inbox : Inbox

/--
Pulls events until none is left, the inbox has no room for another two, or it takes none.
-/
def pullAll (reference : Reference) (now : UInt64) (isLeftHeld : Bool) (inbox : Inbox) :
    List Host.Event → Pulled
  | [] => ⟨isLeftHeld, [], inbox⟩
  | event :: rest =>
    -- An event brings in two at most, so no delivery finds the queue full.
    if inbox.hasRoom 2 then
      match convert reference now isLeftHeld event with
      | (isLeftHeld, none) => pullAll reference now isLeftHeld inbox rest
      | (isLeftHeld, some event) =>
        match inbox.push event with
        | (inbox, .done) => pullAll reference now isLeftHeld inbox rest
        | (inbox, _) => ⟨isLeftHeld, rest, inbox⟩
    else
      ⟨isLeftHeld, event :: rest, inbox⟩

def pull (relay : Relay) (now : UInt64) (inbox : Inbox) : Relay × Inbox :=
  match relay.isAttached, relay.pump with
  | true, some pump =>
    let pulled := pullAll relay.reference now relay.isLeftHeld inbox pump.events
    ({ relay with
        pump := some { pump with events := pulled.rest }
        isLeftHeld := pulled.isLeftHeld },
      pulled.inbox)
  | _, _ => (relay, inbox)

def offer (relay : Relay) : Offer :=
  let hasTouch := relay.pump.any fun pump => 0 < pump.touchDevices
  { kind := .host
    uses := .mouse ||| .keyboard ||| (Device.Uses.touch ||| .multiTouch).when hasTouch
    contactLimit := if hasTouch then maxSlots else 1
    device := none }

def cleanup (relay : Relay) : Relay :=
  { relay.stop with status := .idle }

end Relay

end TouchPanel
