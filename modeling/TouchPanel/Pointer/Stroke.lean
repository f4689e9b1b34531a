import TouchPanel.Pointer.Basic

/-!
This module contains the rule that the phases of one contact obey: they are strokes, each a down,
any number of moves and an up, of which the last may still be open.
-/

namespace TouchPanel.Stroke

/--
What a phase makes of a contact that is down (`true`) or lifted (`false`). `none` stands for a phase
that does not fit.
-/
def next : Bool → Phase → Option Bool
  | false, .down => some true
  | true, .move => some true
  | true, .up => some false
  | _, _ => none

def run (isDown : Bool) (phases : List Phase) : Option Bool :=
  phases.foldlM next isDown

/--
The phases of a contact that is lifted at first are strokes, the last one open or not.
-/
def Follows (phases : List Phase) : Prop :=
  (run false phases).isSome

/--
The phases of a contact that is lifted at first are whole strokes.
-/
def Closed (phases : List Phase) : Prop :=
  run false phases = some false

instance (phases : List Phase) : Decidable (Follows phases) :=
  inferInstanceAs (Decidable ((run false phases).isSome = true))

instance (phases : List Phase) : Decidable (Closed phases) :=
  inferInstanceAs (Decidable (run false phases = some false))

def ofKey (key : Key) (samples : List Sample) : List Phase :=
  (samples.filter fun sample => sample.key == key).map Sample.phase

@[simp]
theorem run_nil (isDown : Bool) : run isDown [] = some isDown := rfl

@[simp]
theorem run_cons (isDown : Bool) (phase : Phase) (phases : List Phase) :
    run isDown (phase :: phases) = (next isDown phase).bind fun isDown => run isDown phases := rfl

theorem run_append (isDown : Bool) (phases more : List Phase) :
    run isDown (phases ++ more) = (run isDown phases).bind fun isDown => run isDown more := by
  simp [run, List.foldlM_append, bind]

end TouchPanel.Stroke
