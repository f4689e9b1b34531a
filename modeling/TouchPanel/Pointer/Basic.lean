import TouchPanel.Binary.Single
import TouchPanel.Text.Blank

/-!
This module contains the samples of a pointer: a contact that goes down, moves or lifts at a point
of the unit square, told apart by the origin of the sample and the id of the contact.
-/

namespace TouchPanel

inductive Phase where
  | down
  | move
  | up
  deriving DecidableEq, Repr, Inhabited

namespace Phase

def label : Phase → String
  | .down => "down"
  | .move => "move"
  | .up => "up"

def all : List Phase := [.down, .move, .up]

def ofLabel? (word : String) : Option Phase :=
  all.find? fun phase => phase.label == Text.fold word

theorem ofLabel?_label (phase : Phase) : ofLabel? phase.label = some phase := by
  cases phase <;> decide

end Phase

inductive Origin where
  | mouse
  | touch
  | mock
  deriving DecidableEq, Repr, Inhabited

namespace Origin

def label : Origin → String
  | .mouse => "mouse"
  | .touch => "touch"
  | .mock => "mock"

def all : List Origin := [.mouse, .touch, .mock]

def ofLabel? (word : String) : Option Origin :=
  all.find? fun origin => origin.label == Text.fold word

def rank : Origin → Nat
  | .mouse => 0
  | .touch => 1
  | .mock => 2

theorem ofLabel?_label (origin : Origin) : ofLabel? origin.label = some origin := by
  cases origin <;> decide

end Origin

/--
What tells contacts apart: where their samples come from, and their number there.
-/
structure Key where
  origin : Origin
  id : UInt32
  deriving DecidableEq, Repr

/--
The place of a contact when contacts are put in order: by origin, then by id.
-/
def Key.rank (key : Key) : Nat :=
  key.origin.rank * UInt32.size + key.id.toNat

theorem Key.rank_injective {a b : Key} (h : a.rank = b.rank) : a = b := by
  have ha := a.id.toNat_lt
  have hb := b.id.toNat_lt
  have hrank : a.origin.rank = b.origin.rank := by
    simp only [Key.rank, UInt32.size] at h; omega
  have hid : a.id.toNat = b.id.toNat := by
    simp only [Key.rank, UInt32.size] at h; omega
  have horigin : a.origin = b.origin := by
    cases ha : a.origin <;> cases hb : b.origin <;> simp_all [Origin.rank]
  cases a; cases b
  simp only [Key.mk.injEq]
  exact ⟨horigin, UInt32.toNat_inj.1 hid⟩

/--
One sample of a contact. The point lies in the unit square, with the origin at the top left; times
are in milliseconds.
-/
structure Sample where
  phase : Phase
  id : UInt32
  x : Float32
  y : Float32
  pressure : Float32
  time : UInt64
  origin : Origin
  deriving DecidableEq, Repr

namespace Sample

def clamped (phase : Phase) (id : UInt32) (x y : Float32) (time : UInt64) (origin : Origin) :
    Sample :=
  { phase, id, x := Binary.clampUnit x, y := Binary.clampUnit y, pressure := 1, time, origin }

def withPressure (sample : Sample) (pressure : Float32) : Sample :=
  { sample with pressure := Binary.clampUnit pressure }

def key (sample : Sample) : Key :=
  ⟨sample.origin, sample.id⟩

def lifted (sample : Sample) (time : UInt64) : Sample :=
  { sample with phase := .up, time }

@[simp]
theorem key_lifted (sample : Sample) (time : UInt64) : (sample.lifted time).key = sample.key := rfl

@[simp]
theorem time_lifted (sample : Sample) (time : UInt64) : (sample.lifted time).time = time := rfl

end Sample

end TouchPanel
