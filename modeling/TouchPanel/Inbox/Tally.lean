import TouchPanel.Event

/-!
This module contains the tally of the events of a session. Its numbers are words that only grow.
-/

namespace TouchPanel

structure Tally where
  total : UInt64
  touch : UInt64
  mouse : UInt64
  keyboard : UInt64
  rejected : UInt64
  implicitReleases : UInt64
  deriving DecidableEq, Repr

namespace Tally

def zero : Tally :=
  { total := 0, touch := 0, mouse := 0, keyboard := 0, rejected := 0, implicitReleases := 0 }

/--
One event more. Samples that stem from a mouse count as the mouse's.
-/
def count (tally : Tally) (event : Event) : Tally :=
  let tally := { tally with total := tally.total + 1 }
  match event with
  | .pointer sample =>
    if sample.origin = .mouse then
      { tally with mouse := tally.mouse + 1 }
    else
      { tally with touch := tally.touch + 1 }
  | .mouse _ => { tally with mouse := tally.mouse + 1 }
  | .key _ => { tally with keyboard := tally.keyboard + 1 }

def describe (tally : Tally) : String :=
  s!"total={tally.total} touch={tally.touch} mouse={tally.mouse} keyboard={tally.keyboard} " ++
    s!"rejected={tally.rejected} implicit_release={tally.implicitReleases}"

end Tally

end TouchPanel
