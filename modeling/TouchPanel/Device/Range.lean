import TouchPanel.Binary.Single

/-!
This module contains the ranges of axes and the place of a raw value in its range.
-/

namespace TouchPanel.Device

structure Range where
  least : Int32
  greatest : Int32
  deriving DecidableEq, Repr

namespace Range

def span (range : Range) : Int :=
  range.greatest.toInt - range.least.toInt

/--
The place of a raw value in a range, from 0 at the least value to 1 at the greatest. Values outside
count as the nearest end, and a range without length has the place 0 only.
-/
def place (range : Range) (raw : Int32) : Float32 :=
  if range.span ≤ 0 then
    0
  else
    let offset := max 0 (min (raw.toInt - range.least.toInt) range.span)
    Binary.quotient offset.toNat range.span.toNat

def describe (range : Range) : String :=
  s!"[{range.least}..{range.greatest}]"

/--
The pressure at a raw value. Where no pressure is reported it is full.
-/
def pressure : Option Range → Option Int32 → Float32
  | some range, some raw => range.place raw
  | _, _ => 1

end Range

end TouchPanel.Device
