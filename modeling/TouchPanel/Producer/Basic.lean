import TouchPanel.Producer.Panel
import TouchPanel.Producer.Relay
import TouchPanel.Producer.Synthesizer

/-!
This module contains the producers of events, whatever their kind: a producer is prepared, then
started and stopped any number of times. All of them deliver to an inbox.
-/

namespace TouchPanel

inductive Producer where
  | host (relay : Relay)
  | panel (panel : Panel)
  | synthetic (synthesizer : Synthesizer)

namespace Producer

def new (kind : ProducerKind) (pump : Option Host.Pump) (opener : Device.Opener) : Producer :=
  match kind with
  | .host => host (.new pump)
  | .panel => panel (.new opener)
  | .synthetic => synthetic .new

def kind : Producer → ProducerKind
  | host _ => .host
  | panel _ => .panel
  | synthetic _ => .synthetic

def status : Producer → Status
  | host relay => relay.status
  | panel p => p.status
  | synthetic synthesizer => synthesizer.status

def offer : Producer → Offer
  | host relay => relay.offer
  | panel p => p.offer
  | synthetic _ => Synthesizer.offer

def prepare (producer : Producer) (settings : Settings) : Except Failure Producer :=
  match producer with
  | host relay => (relay.prepare settings).map host
  | panel p => (p.prepare settings).map panel
  | synthetic synthesizer => (synthesizer.prepare settings).map synthetic

def start (producer : Producer) (now : UInt64) : Except Failure Producer :=
  match producer with
  | host relay => relay.start.map host
  | panel p => p.start.map panel
  | synthetic synthesizer => (synthesizer.start now).map synthetic

/--
What the producer does at the request of the consumer.
-/
def pull (producer : Producer) (now : UInt64) (inbox : Inbox) : Producer × Inbox :=
  match producer with
  | host relay => let (relay, inbox) := relay.pull now inbox; (host relay, inbox)
  | other => (other, inbox)

def work (producer : Producer) (now : UInt64) (inbox : Inbox) : Producer × Inbox :=
  match producer with
  | host relay => (host relay, inbox)
  | panel p => let (p, inbox) := p.work now inbox; (panel p, inbox)
  | synthetic synthesizer =>
    let (synthesizer, inbox) := synthesizer.work now inbox
    (synthetic synthesizer, inbox)

def stop (producer : Producer) (now : UInt64) (inbox : Inbox) : Producer × Inbox :=
  match producer with
  | host relay => (host relay.stop, inbox)
  | panel p => let (p, inbox) := p.stop now inbox; (panel p, inbox)
  | synthetic synthesizer =>
    let (synthesizer, inbox) := synthesizer.stop now inbox
    (synthetic synthesizer, inbox)

def cleanup (producer : Producer) (now : UInt64) (inbox : Inbox) : Producer × Inbox :=
  match producer with
  | host relay => (host relay.cleanup, inbox)
  | panel p => let (p, inbox) := p.cleanup now inbox; (panel p, inbox)
  | synthetic synthesizer =>
    let (synthesizer, inbox) := synthesizer.cleanup now inbox
    (synthetic synthesizer, inbox)

end Producer

end TouchPanel
