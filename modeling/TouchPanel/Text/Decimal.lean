import TouchPanel.Binary.Single
import TouchPanel.Text.Integer

/-!
This module contains the decimal text of 32-bit numbers: `fixed` writes a number with a fixed number
of places, rounded from its exact value, and `readDecimal` reads the number nearest to a decimal.
-/

namespace TouchPanel.Text

open Binary

def placed (places n : Nat) : List Char :=
  let digits := Nat.toDigits 10 (n / Nat.pow 10 places)
  let rest := Nat.toDigits 10 (n % Nat.pow 10 places)
  digits ++ '.' :: (List.replicate (places - rest.length) '0' ++ rest)

/--
A number with `places` digits behind the point. Halves of the last place go to the even neighbour.
Zero keeps its sign, and so does what is rounded to zero.
-/
def fixed (places : Nat) (x : Float32) : List Char :=
  let word := magnitude x
  if Format.single.infinity < word then
    "NaN".toList
  else
    let digits :=
      if word = Format.single.infinity then
        "inf".toList
      else
        let (n, d) := Format.single.ratio word
        placed places (roundEven (n * Nat.pow 10 places) d)
    if isNegative x then '-' :: digits else digits

structure Decimal where
  significand : Nat
  exponent : Int
  deriving DecidableEq, Repr

def readExponent (cs : List Char) : Option Int :=
  let (negative, digits) : Bool × List Char :=
    match cs with
    | '-' :: digits => (true, digits)
    | '+' :: digits => (false, digits)
    | digits => (false, digits)
  if digits.isEmpty || !digits.all Char.isDigit then
    none
  else
    let n := Nat.ofDigitChars 10 digits 0
    some (if negative then -(n : Int) else n)

/--
Reads digits, a point among them or not, and an exponent. At least one digit stands before the
exponent.
-/
def readUnsigned (cs : List Char) : Option Decimal :=
  let whole := cs.takeWhile Char.isDigit
  let afterWhole := cs.dropWhile Char.isDigit
  let (places, rest) : List Char × List Char :=
    match afterWhole with
    | '.' :: more => (more.takeWhile Char.isDigit, more.dropWhile Char.isDigit)
    | _ => ([], afterWhole)
  if whole.isEmpty && places.isEmpty then
    none
  else
    let significand := Nat.ofDigitChars 10 (whole ++ places) 0
    match rest with
    | [] => some ⟨significand, -(places.length : Int)⟩
    | mark :: power =>
      if mark.toLower = 'e' then
        (readExponent power).map fun e => ⟨significand, e - places.length⟩
      else
        none

/--
Reads a number without its sign: `inf`, `infinity` and `nan` in any letter case, or a decimal.
-/
def readMagnitude (negative : Bool) (cs : List Char) : Option Float32 :=
  let word := String.ofList (cs.map Char.toLower)
  if word = "nan" then
    some (Float32.ofBits 0x7FC00000)
  else if word = "inf" || word = "infinity" then
    some (ofMagnitude negative Format.single.infinity)
  else
    (readUnsigned cs).map fun d =>
      ofMagnitude negative (Format.single.ofDecimal d.significand d.exponent)

def readDecimal (cs : List Char) : Except NumberFault Float32 :=
  let number? : Option Float32 :=
    match cs with
    | '-' :: rest => readMagnitude true rest
    | '+' :: rest => readMagnitude false rest
    | rest => readMagnitude false rest
  if cs.isEmpty then .error .emptyDecimal
  else match number? with
    | some x => .ok x
    | none => .error .invalidDecimal

end TouchPanel.Text
