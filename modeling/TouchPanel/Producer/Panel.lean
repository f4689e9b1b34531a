import TouchPanel.Device.Discovery
import TouchPanel.Producer.Reader
import TouchPanel.Settings.Basic

/-!
This module contains the producer that reads a touch panel by a worker. A device that went away
stays away; after any other fault the panel can be started again.
-/

namespace TouchPanel

structure Panel where
  opener : Device.Opener
  path : Option String
  /-- The open device. A worker takes it for itself. -/
  device : Option Device
  capabilities : Option Device.Capabilities
  mouseSurface : Option Reference
  worker : Option Reader
  status : Status

namespace Panel

def new (opener : Device.Opener) : Panel :=
  { opener, path := none, device := none, capabilities := none, mouseSurface := none,
    worker := none, status := .idle }

/--
The path of the device: the one that the settings name, or the first that is found.
-/
def locate (panel : Panel) (settings : Settings) : Except Failure String :=
  match settings.devicePath with
  | some path => .ok path
  | none =>
    if settings.searchesDevice then
      (Device.Discovery.first settings.deviceRoot panel.opener).map Device.Discovery.Hit.path
    else
      .error (.settings .noDeviceNamed)

def openDevice (panel : Panel) (path : String) : Except Failure Device :=
  (panel.opener path).mapError (.deviceOpen path)

def prepare (panel : Panel) (settings : Settings) : Except Failure Panel := do
  let path ← panel.locate settings
  let device ← panel.openDevice path
  let capabilities ← device.survey.capabilities.mapError .notTouch
  return { panel with
    path := some path
    device := some device
    capabilities := some capabilities
    mouseSurface := if settings.drivesMouse then some settings.reference else none
    status := .prepared }

def start (panel : Panel) : Except Failure Panel := do
  if panel.worker.any Reader.isRunning then
    throw .alreadyRunning
  if panel.status = .disconnected then
    throw .disconnected
  match panel.path, panel.capabilities with
  | some path, some capabilities =>
    let device ←
      match panel.device with
      | some device => pure device
      | none => panel.openDevice path
    return { panel with
      device := none
      worker := some (.new device.feed capabilities panel.mouseSurface)
      status := .running }
  | _, _ => throw .notPrepared

def work (panel : Panel) (now : UInt64) (inbox : Inbox) : Panel × Inbox :=
  match panel.worker with
  | none => (panel, inbox)
  | some worker =>
    let (worker, inbox, status) := worker.step now inbox
    ({ panel with worker := some worker, status := status.getD panel.status }, inbox)

/--
Asks the worker to end and lets it do so. A status in which the worker has ended by itself is kept.
-/
def stop (panel : Panel) (now : UInt64) (inbox : Inbox) : Panel × Inbox :=
  match panel.worker with
  | none => (panel, inbox)
  | some worker =>
    let (_, inbox) := { worker with isWanted := false }.finish now inbox
    ({ panel with worker := none, status := (panel.status.transition .running .stopped).1 }, inbox)

def offer (panel : Panel) : Offer :=
  { kind := .panel
    uses := (panel.capabilities.map Device.Capabilities.uses).getD .none
    contactLimit := (panel.capabilities.map Device.Capabilities.slotCount).getD 0
    device := panel.capabilities }

def cleanup (panel : Panel) (now : UInt64) (inbox : Inbox) : Panel × Inbox :=
  let (panel, inbox) := panel.stop now inbox
  ({ panel with device := none, status := .idle }, inbox)

end Panel

end TouchPanel
