import TouchPanel.Contact.Calibration
import TouchPanel.Contact.Tracker
import TouchPanel.Host.Pixels
import TouchPanel.Inbox.Basic
import TouchPanel.Kernel.Feed
import TouchPanel.Producer.Status

/-!
This module contains the worker that reads a device: it fetches records, follows the contacts, and
delivers a sample for every transition.

It runs beside the consumer, so it is described by its single steps (`Reader.step`), each of which
delivers one event at most. `Reader.finish` lets a worker that was asked to end do so.
-/

namespace TouchPanel

structure Reader where
  feed : Kernel.Feed
  tracker : Tracker
  calibration : Calibration
  /-- The surface on which the first contact drives the mouse, if it does. -/
  mouseSurface : Option Reference
  isWanted : Bool
  records : List Kernel.Record
  transitions : List Transition
  /-- The mouse event that follows the last sample. -/
  mouseEvent : Option MouseEvent
  /-- What the inbox has had no room for yet. -/
  waiting : List Event
  /-- Nothing is read any more. What is left is the lifting of contacts that are down. -/
  isLeaving : Bool
  hasEnded : Bool

namespace Reader

def new (feed : Kernel.Feed) (capabilities : Device.Capabilities)
    (mouseSurface : Option Reference) : Reader :=
  { feed
    tracker := .new capabilities.protocol capabilities.slotCount
    calibration := .ofCapabilities capabilities
    mouseSurface
    isWanted := true
    records := []
    transitions := []
    mouseEvent := none
    waiting := []
    isLeaving := false
    hasEnded := false }

def isRunning (reader : Reader) : Bool := reader.isWanted && !reader.hasEnded

def leave (reader : Reader) : Reader :=
  let (tracker, transitions) := reader.tracker.release 0
  { reader with
    tracker, transitions
    records := []
    mouseEvent := none
    waiting := []
    isLeaving := true }

/--
Goes on after a delivery. An inbox that takes nothing makes the worker leave, and end if it was
leaving.
-/
def settle (reader : Reader) : Delivery → Reader
  | .done => { reader with waiting := [] }
  | .waiting events => { reader with waiting := events }
  | .closed =>
    if reader.isLeaving then
      { reader with transitions := [], mouseEvent := none, waiting := [], hasEnded := true }
    else
      reader.leave

def fetch (reader : Reader) : Reader × Option Status :=
  match reader.feed.fetch with
  | (.ok records, feed) => ({ reader with feed, records }, none)
  | (.error fault, feed) =>
    let reader := { reader with feed }
    if fault.isPassing then (reader, none)
    else (reader.leave, some (if fault.isDisconnect then .disconnected else .failed))

def step (now : UInt64) (reader : Reader) (inbox : Inbox) : Reader × Inbox × Option Status :=
  if reader.hasEnded then
    (reader, inbox, none)
  else if !reader.waiting.isEmpty then
    -- What found no room comes first, so that events stay in their order.
    let (inbox, delivery) := inbox.enqueue reader.waiting
    (reader.settle delivery, inbox, none)
  else
    match reader.mouseEvent, reader.transitions, reader.records with
    | some event, _, _ =>
      let (inbox, delivery) := inbox.push (.mouse event)
      ({ reader with mouseEvent := none }.settle delivery, inbox, none)
    | none, transition :: transitions, _ =>
      let sample := reader.calibration.sample transition now
      let mouseEvent :=
        if transition.slot = 0 then reader.mouseSurface.map sample.mouseEvent else none
      let (inbox, delivery) := inbox.push (.pointer sample)
      ({ reader with transitions, mouseEvent }.settle delivery, inbox, none)
    | none, [], record :: records =>
      let (tracker, frame) := reader.tracker.process record
      ({ reader with tracker, records, transitions := frame.getD [] }, inbox, none)
    | none, [], [] =>
      if reader.isLeaving then
        ({ reader with hasEnded := true }, inbox, none)
      else if reader.isWanted then
        let (reader, status) := reader.fetch
        (reader, inbox, status)
      else
        (reader.leave, inbox, none)

/--
The work that the delivery of a frame makes at most: a sample and a mouse event for a transition,
and a release before the sample.
-/
def frameWork : Nat := 5 * Tracker.frameCapacity

/--
What is still to be done before a worker that is not wanted ends. Every step that does not wait
makes it smaller.
-/
def remaining (reader : Reader) : Nat :=
  let ending := if reader.hasEnded then 0 else if reader.isLeaving then 1 else frameWork + 2
  ending + (frameWork + 1) * reader.records.length + 5 * reader.transitions.length +
    2 * reader.mouseEvent.toList.length + reader.waiting.length

/--
Takes the steps of a worker that is not wanted, up to its end, or up to where it waits for room.
-/
def finish (now : UInt64) (reader : Reader) (inbox : Inbox) : Reader × Inbox :=
  let (next, inbox, _) := reader.step now inbox
  if _ : next.remaining < reader.remaining then finish now next inbox else (next, inbox)
termination_by reader.remaining
decreasing_by assumption

end Reader

end TouchPanel
