import TouchPanel.Text.Integer

/-!
This module contains sets of flags, kept as the bits of a number, and the two kinds that devices
have: the event types that a device reports and the uses that it can be put to.
-/

namespace TouchPanel.Device

structure FlagNames where
  name : String
  flags : List (Nat × String)

namespace FlagNames

def named (names : FlagNames) (bits : Nat) : List String :=
  names.flags.filterMap fun (place, flag) => if bits.testBit place then some flag else none

/--
The bits that are set and have no name, as a number.
-/
def unnamed (names : FlagNames) (bits : Nat) : Nat :=
  names.flags.foldl (fun rest (place, _) =>
    if bits.testBit place then rest - Nat.pow 2 place else rest) bits

def describe (names : FlagNames) (bits : Nat) : String :=
  let rest := names.unnamed bits
  let words := names.named bits
  let words :=
    if rest ≠ 0 ∨ words = [] then words ++ ["0x" ++ Text.hexadecimal 1 rest] else words
  names.name ++ "(" ++ " | ".intercalate words ++ ")"

end FlagNames

structure EventTypes where
  bits : UInt32
  deriving DecidableEq, Repr

namespace EventTypes

def names : FlagNames where
  name := "EventTypes"
  flags := [(0x00, "SYN"), (0x01, "KEY"), (0x02, "REL"), (0x03, "ABS"), (0x04, "MSC"),
    (0x05, "SW"), (0x11, "LED"), (0x12, "SND"), (0x14, "REP"), (0x15, "FF")]

def describe (types : EventTypes) : String := names.describe types.bits.toNat

def has (types : EventTypes) (code : UInt16) : Bool := types.bits.toNat.testBit code.toNat

end EventTypes

structure Uses where
  bits : UInt8
  deriving DecidableEq, Repr

namespace Uses

def touch : Uses := ⟨1⟩
def mouse : Uses := ⟨2⟩
def keyboard : Uses := ⟨4⟩
def pressure : Uses := ⟨8⟩
def multiTouch : Uses := ⟨16⟩
def none : Uses := ⟨0⟩

instance : OrOp Uses := ⟨fun a b => ⟨a.bits ||| b.bits⟩⟩

def when (uses : Uses) (condition : Bool) : Uses :=
  if condition then uses else none

/--
Whether all of some uses are among these.
-/
def has (uses part : Uses) : Bool := uses.bits &&& part.bits == part.bits

def names : FlagNames where
  name := "CapabilityFlags"
  flags := [(0, "TOUCH"), (1, "MOUSE"), (2, "KEYBOARD"), (3, "PRESSURE"), (4, "MULTI_TOUCH")]

def describe (uses : Uses) : String := names.describe uses.bits.toNat

end Uses

end TouchPanel.Device
