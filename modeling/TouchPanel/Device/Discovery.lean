import TouchPanel.Device.Survey
import TouchPanel.Kernel.Feed
import TouchPanel.Text.Lines

/-!
This module contains devices, the paths by which they are opened, and the search for the first
multi-touch device under a root.
-/

namespace TouchPanel

namespace Path

def join (folder entry : String) : String :=
  if folder.isEmpty || folder.endsWith "/" then folder ++ entry else folder ++ "/" ++ entry

/--
The parts of a path that count: an empty part in front stands for the root, and empty parts and dots
further on for nothing.
-/
def parts (path : String) : List String :=
  match (Text.fields '/' path.toList).map String.ofList with
  | [] => []
  | first :: rest =>
    let rest := rest.filter fun part => part ≠ "" ∧ part ≠ "."
    if path.isEmpty then rest else first :: rest

def same (a b : String) : Bool := parts a == parts b

end Path

structure Device where
  survey : Device.Survey
  feed : Kernel.Feed

namespace Device

abbrev Opener := String → Except SystemFault Device

def Opener.nothing : Opener := fun _ => .error .missing

/--
The devices of a list, by path. Of devices at one place, the last counts.
-/
def Opener.ofList (devices : List (String × Device)) : Opener := fun path =>
  match devices.reverse.find? fun (known, _) => Path.same known path with
  | some (_, device) => .ok device
  | none => .error .missing

namespace Discovery

def nodeCount : Nat := 32

def node (root : String) (index : Nat) : String :=
  Path.join root s!"event{index}"

def nodes (root : String) : List String :=
  (List.range nodeCount).map (node root)

structure Hit where
  path : String
  capabilities : Capabilities
  deriving DecidableEq, Repr

/--
What becomes of one node in the search: why it is passed over, or what is known of its device.
-/
def visit (opener : Opener) (path : String) : Except String Capabilities :=
  match opener path with
  | .error fault => .error fault.message
  | .ok device =>
    match device.survey.capabilities with
    | .error fault => .error (Failure.notTouch fault).message
    | .ok capabilities =>
      if capabilities.isMultiTouch then
        .ok capabilities
      else
        .error s!"{capabilities.name} has no multi-touch axes"

def first (root : String) (opener : Opener) : Except Failure Hit :=
  let hit? := (nodes root).findSome? fun path =>
    (visit opener path).toOption.map fun capabilities => (⟨path, capabilities⟩ : Hit)
  match hit? with
  | some hit => .ok hit
  | none => .error (.noDevice root)

/--
The nodes that open, each with the outcome of its survey.
-/
def all (root : String) (opener : Opener) : List (String × Except SurveyFault Capabilities) :=
  (nodes root).filterMap fun path =>
    (opener path).toOption.map fun device => (path, device.survey.capabilities)

def skips (root : String) (opener : Opener) : List String :=
  let outcomes := (nodes root).map fun path => (path, visit opener path)
  (outcomes.takeWhile fun (_, outcome) => !outcome.toBool).filterMap fun (path, outcome) =>
    match outcome with
    | .error reason => some s!"input: scan skip {path}: {reason}"
    | .ok _ => none

end Discovery

end Device

end TouchPanel
