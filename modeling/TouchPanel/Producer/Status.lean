import TouchPanel.Device.Capabilities
import TouchPanel.Producer.Kind

/-!
This module contains what a producer shows of itself: the states that it passes through, and what it
offers to its consumer, that is the uses that it can be put to and how many contacts it follows.
-/

namespace TouchPanel

inductive Status where
  | idle
  | prepared
  | running
  | stopped
  | disconnected
  | failed
  deriving DecidableEq, Repr

namespace Status

def label : Status → String
  | idle => "idle"
  | prepared => "initialized"
  | running => "running"
  | stopped => "stopped"
  | disconnected => "disconnected"
  | failed => "failed"

def all : List Status := [idle, prepared, running, stopped, disconnected, failed]

def ofLabel? (label : String) : Option Status :=
  all.find? fun status => status.label == label

/--
Goes from one state to another, if it is the present one. Says whether it was.
-/
def transition (status source target : Status) : Status × Bool :=
  if status = source then (target, true) else (status, false)

end Status

structure Offer where
  kind : ProducerKind
  uses : Device.Uses
  contactLimit : Nat
  device : Option Device.Capabilities
  deriving DecidableEq, Repr

namespace Offer

def hasTouch (offer : Offer) : Bool := offer.uses.has .touch

def hasMouse (offer : Offer) : Bool := offer.uses.has .mouse

def hasKeyboard (offer : Offer) : Bool := offer.uses.has .keyboard

end Offer

end TouchPanel
