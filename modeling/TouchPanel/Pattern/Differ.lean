import TouchPanel.Pattern.Cycle
import TouchPanel.Pointer.Basic

/-!
This module contains the step from successive frames to what each contact does.
-/

namespace TouchPanel.Pattern

/--
How many changes one frame brings at most: two contacts go and two others come.
-/
def changeLimit : Nat := 4

structure Differ where
  down : List Spot
  deriving DecidableEq, Repr

namespace Differ

def new : Differ := ⟨[]⟩

def find? (spots : List Spot) (id : UInt32) : Option Spot :=
  spots.find? fun spot => spot.id == id

/--
What the contacts do in a frame: those that are gone lift where they were, those that are there go
down or move. In the last frame all lift, where the frame has them if it does.
-/
def apply (differ : Differ) (frame : Frame) : Differ × List (Phase × Spot) :=
  if frame.isLast then
    let ups := differ.down.map fun spot => (Phase.up, (find? frame.spots spot.id).getD spot)
    (new, ups.take changeLimit)
  else
    let gone := differ.down.filter fun spot => (find? frame.spots spot.id).isNone
    let present := frame.spots.map fun spot =>
      (if (find? differ.down spot.id).isSome then Phase.move else Phase.down, spot)
    (⟨frame.spots⟩, (gone.map (Phase.up, ·) ++ present).take changeLimit)

def run (differ : Differ) : List Frame → List (List (Phase × Spot))
  | [] => []
  | frame :: frames =>
    let (differ, changes) := differ.apply frame
    changes :: differ.run frames

end Differ

end TouchPanel.Pattern
