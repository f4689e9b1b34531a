import TouchPanel.Binary.Format

/-!
This module contains what the program does with 32-bit floating-point numbers: exact values,
rounding from wider numbers, the clamp to the unit interval and the nearest whole number.
-/

namespace TouchPanel.Binary

def ofMagnitude (negative : Bool) (word : Nat) : Float32 :=
  Float32.ofBits (UInt32.ofNat (if negative then word + Format.single.sign else word))

def isNegative (x : Float32) : Bool :=
  Format.single.sign ≤ x.toBits.toNat

def magnitude (x : Float32) : Nat :=
  x.toBits.toNat % Format.single.sign

def narrow (x : Float) : Float32 :=
  let word := x.toBits.toNat % Format.double.sign
  let negative := decide (Format.double.sign ≤ x.toBits.toNat)
  if Format.double.infinity < word then
    Float32.ofBits 0x7FC00000
  else if word = Format.double.infinity then
    ofMagnitude negative Format.single.infinity
  else
    let (n, d) := Format.double.ratio word
    ofMagnitude negative (Format.single.nearest n d)

/--
The quotient `n / d` as a 64-bit number, then as a 32-bit number.
-/
def quotient (n d : Nat) : Float32 :=
  let (n, d) := Format.double.ratio (Format.double.nearest n d)
  ofMagnitude false (Format.single.nearest n d)

/--
The decimal `m * 10 ^ e` as a 64-bit number, then as a 32-bit number.
-/
def ofDecimal (negative : Bool) (m : Nat) (e : Int) : Float32 :=
  narrow (Float.ofBits (UInt64.ofNat
    (Format.double.ofDecimal m e + if negative then Format.double.sign else 0)))

def ofInt (n : Int) : Float32 :=
  ofMagnitude (n < 0) (Format.single.nearest n.natAbs 1)

/--
The nearest number between 0 and 1. What is not a number stays as it is, and so does negative zero.
-/
def clampUnit (x : Float32) : Float32 :=
  if x < 0 then 0 else if 1 < x then 1 else x

/--
The whole number nearest to a finite number, halves going away from zero. What is not a number
counts as zero, and an infinity as a number beyond all words.
-/
def nearestInt (x : Float32) : Int :=
  let word := magnitude x
  if Format.single.infinity < word then
    0
  else
    let (n, d) := Format.single.ratio word
    if isNegative x then -(roundUp n d : Int) else roundUp n d

@[simp]
theorem clampUnit_zero : clampUnit 0 = 0 := by decide

@[simp]
theorem clampUnit_one : clampUnit 1 = 1 := by decide

@[simp]
theorem clampUnit_clampUnit (x : Float32) : clampUnit (clampUnit x) = clampUnit x := by
  by_cases h₀ : x < 0
  . have h : clampUnit x = 0 := by simp [clampUnit, h₀]
    rw [h, clampUnit_zero]
  . by_cases h₁ : 1 < x
    . have h : clampUnit x = 1 := by simp [clampUnit, h₀, h₁]
      rw [h, clampUnit_one]
    . simp [clampUnit, h₀, h₁]

end TouchPanel.Binary
