import TouchPanel.Producer.Basic

/-!
This module contains sessions: a producer with the inbox that it delivers to, and the events that
were left over when the session stopped. The consumer starts and stops the session and takes events
from it.
-/

namespace TouchPanel

structure Session where
  settings : Settings
  producer : Producer
  inbox : Inbox
  /-- Events from before the last stop, which come before those of the inbox. -/
  backlog : List Event
  isStarted : Bool
  /-- The time since the session began. -/
  now : UInt64

namespace Session

/--
Begins a session with a producer, which has to be of the kind that the settings name.
-/
def begin (settings : Settings) (producer : Producer) : Except Failure Session := do
  settings.validate.mapError .settings
  if producer.kind ≠ settings.producer then
    throw (.settings (.mismatch settings.producer.label producer.kind.label))
  let producer ← producer.prepare settings
  return { settings, producer, inbox := .new, backlog := [], isStarted := false, now := 0 }

/--
Starts the producer. If it does not start, the inbox stays closed.
-/
def start (session : Session) : Session × Except Failure Unit :=
  if session.isStarted then
    (session, .error .alreadyRunning)
  else
    match session.producer.start session.now with
    | .ok producer =>
      ({ session with producer, inbox := session.inbox.setOpen true, isStarted := true }, .ok ())
    | .error fault => ({ session with inbox := session.inbox.setOpen false }, .error fault)

/--
Stops the producer and keeps what it has delivered. Every contact that is down is lifted after that.
-/
def stop (session : Session) : Session :=
  if session.isStarted then
    -- The inbox is closed first, so a worker that waits for room gives up.
    let (producer, inbox) := session.producer.stop session.now (session.inbox.setOpen false)
    let (queued, inbox) := inbox.takeAll
    let (releases, inbox) := inbox.releaseAll session.now
    { session with
      producer, inbox
      backlog := session.backlog ++ queued ++ releases
      isStarted := false }
  else
    session

def isRunning (session : Session) : Bool :=
  session.isStarted && session.producer.status == .running

def pull (session : Session) : Session :=
  if session.isStarted then
    let (producer, inbox) := session.producer.pull session.now session.inbox
    { session with producer, inbox }
  else
    session

def work (session : Session) : Session :=
  let (producer, inbox) := session.producer.work session.now session.inbox
  { session with producer, inbox }

def elapse (session : Session) (span : UInt64) : Session :=
  { session with now := Time.after session.now span }

def push (session : Session) (event : Event) : Session × Delivery :=
  let (inbox, delivery) := session.inbox.push event
  ({ session with inbox }, delivery)

/--
The events that wait for the consumer, oldest first.
-/
def pending (session : Session) : List Event := session.backlog ++ session.inbox.queue

def poll (session : Session) : Option Event × Session :=
  let session := session.pull
  match session.backlog with
  | event :: backlog => (some event, { session with backlog })
  | [] =>
    let (event, inbox) := session.inbox.take?
    (event, { session with inbox })

def drain (session : Session) : List Event × Session :=
  let session := session.pull
  let (queued, inbox) := session.inbox.takeAll
  (session.backlog ++ queued, { session with inbox, backlog := [] })

def forward (session : Session) : List Host.Event × Session :=
  let (events, session) := session.drain
  (events.map .ofEvent, session)

def describe (session : Session) : String :=
  let offer := session.producer.offer
  let device :=
    match offer.device with
    | some capabilities => s!"device: {capabilities.describe}\n"
    | none => ""
  let settings := session.settings
  let reference := settings.reference
  s!"source: {session.producer.kind.label}\n" ++
    s!"status: {session.producer.status.label}\n" ++
    s!"running: {session.isRunning}\n" ++
    s!"capabilities: {offer.uses.describe} max_contacts={offer.contactLimit}\n" ++
    device ++
    s!"counters: {session.inbox.tally.describe}\n" ++
    s!"queue: {session.pending.length} pending, " ++
    s!"{session.inbox.guard.samples.length} contact(s) down\n" ++
    s!"config: mouse_emulation={settings.drivesMouse} " ++
    s!"reference={reference.width}x{reference.height} " ++
    s!"auto_detect={settings.detectsDevice} " ++
    "device_path=" ++ settings.devicePath.getD "-" ++ "\n"

end Session

end TouchPanel
