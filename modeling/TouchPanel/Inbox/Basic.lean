import TouchPanel.Inbox.Tally
import TouchPanel.Pointer.Guard

/-!
This module contains the inbox through which all producers of a session pass their events to its
consumer: a queue of limited length behind the guard.

A producer that finds the queue full waits: `Inbox.push` gives back what is still to be put in, and
`Inbox.enqueue` goes on with it.
-/

namespace TouchPanel

inductive Delivery where
  | done
  /-- The inbox takes no events. -/
  | closed
  /-- There is no room now. These events are still to be put in. -/
  | waiting (events : List Event)
  deriving DecidableEq, Repr

def Inbox.capacity : Nat := 256

/--
The events that wait for the consumer, oldest first, with the guard that they passed and their
tally.
-/
structure Inbox where
  isOpen : Bool
  queue : List Event
  guard : Guard
  tally : Tally
  length_queue_le : queue.length ≤ Inbox.capacity

namespace Inbox

def new : Inbox :=
  { isOpen := true, queue := [], guard := .empty, tally := .zero,
    length_queue_le := Nat.zero_le _ }

instance : Inhabited Inbox := ⟨new⟩

def hasRoom (inbox : Inbox) (count : Nat) : Bool :=
  inbox.queue.length + count ≤ capacity

/--
Puts events in as far as there is room. A producer that finds no room waits as long as the inbox is
open.
-/
def enqueue (inbox : Inbox) : List Event → Inbox × Delivery
  | [] => (inbox, .done)
  | event :: events =>
    if h : inbox.queue.length < capacity then
      enqueue
        { inbox with
          queue := inbox.queue ++ [event]
          tally := inbox.tally.count event
          length_queue_le := by rw [List.length_append]; exact h }
        events
    else if inbox.isOpen then
      (inbox, .waiting (event :: events))
    else
      (inbox, .closed)

/--
Delivers an event. Samples pass the guard first, which remembers them before they are put in.
-/
def push (inbox : Inbox) (event : Event) : Inbox × Delivery :=
  if !inbox.isOpen then
    (inbox, .closed)
  else
    match event with
    | .pointer sample =>
      let (guard, verdict) := inbox.guard.judge sample
      let tally := inbox.tally
      let tally :=
        match verdict with
        | .accepted _ => tally
        | .implicitRelease .. => { tally with implicitReleases := tally.implicitReleases + 1 }
        | .rejected _ => { tally with rejected := tally.rejected + 1 }
      { inbox with guard, tally }.enqueue (verdict.samples.map .pointer)
    | other => inbox.enqueue [other]

def take? (inbox : Inbox) : Option Event × Inbox :=
  (inbox.queue.head?,
    { inbox with
      queue := inbox.queue.tail
      length_queue_le := by have := inbox.length_queue_le; simp; omega })

def takeAll (inbox : Inbox) : List Event × Inbox :=
  (inbox.queue, { inbox with queue := [], length_queue_le := Nat.zero_le _ })

def setOpen (inbox : Inbox) (isOpen : Bool) : Inbox := { inbox with isOpen }

/--
Lifts every contact that is down. The events that do so are counted, but not put in.
-/
def releaseAll (inbox : Inbox) (now : UInt64) : List Event × Inbox :=
  let events := (inbox.guard.release now).map Event.pointer
  (events, { inbox with guard := .empty, tally := events.foldl Tally.count inbox.tally })

end Inbox

end TouchPanel
