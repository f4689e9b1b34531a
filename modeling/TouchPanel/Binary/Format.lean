/-!
This module contains binary floating-point formats as words: the exact value that a word stands for
(`Format.ratio`) and the word nearest to a given ratio, ties going to the even word
(`Format.nearest`). Signs are kept apart: words here are the words of magnitudes.
-/

namespace TouchPanel.Binary

def roundEven (n d : Nat) : Nat :=
  let q := n / d
  let r := n % d
  if 2 * r < d then q else if d < 2 * r then q + 1 else q + q % 2

/--
The whole number nearest to `n / d`; a tie goes to the larger one.
-/
def roundUp (n d : Nat) : Nat :=
  (2 * n + d) / (2 * d)

/--
The widths of a floating-point word: stored bits of the significand, and bits of the exponent.
-/
structure Format where
  fraction : Nat
  exponent : Nat
  deriving DecidableEq, Repr

namespace Format

def single : Format := ⟨23, 8⟩

def double : Format := ⟨52, 11⟩

variable (f : Format)

def least : Int := 2 - (Nat.pow 2 (f.exponent - 1) : Nat) - f.fraction

/--
The word of infinity. Larger words are not numbers.
-/
def infinity : Nat := (Nat.pow 2 f.exponent - 1) * Nat.pow 2 f.fraction

def sign : Nat := Nat.pow 2 (f.exponent + f.fraction)

/--
The value of a finite word, as numerator and denominator.
-/
def ratio (word : Nat) : Nat × Nat :=
  let field := word / Nat.pow 2 f.fraction
  let significand :=
    if field = 0 then word else word % Nat.pow 2 f.fraction + Nat.pow 2 f.fraction
  let exponent := f.least + ((max field 1 - 1 : Nat) : Int)
  (significand * Nat.pow 2 exponent.toNat, Nat.pow 2 (-exponent).toNat)

def exponentOf (n d : Nat) : Int :=
  let k : Int := (n.log2 : Int) - d.log2
  if d * Nat.pow 2 k.toNat ≤ n * Nat.pow 2 (-k).toNat then k else k - 1

/--
The word nearest to `n / d`. What rounds past the largest finite value is infinity.
-/
def nearest (n d : Nat) : Nat :=
  if n = 0 then
    0
  else
    let e := max (exponentOf n d - f.fraction) f.least
    let q := roundEven (n * Nat.pow 2 (-e).toNat) (d * Nat.pow 2 e.toNat)
    min ((e - f.least).toNat * Nat.pow 2 f.fraction + q) f.infinity

/--
The word of the decimal `m * 10 ^ e`. Magnitudes far outside the format are told from the number of
digits alone.
-/
def ofDecimal (m : Nat) (e : Int) : Nat :=
  let size := e + (Nat.toDigits 10 m).length
  if m = 0 then 0
  else if size < -400 then 0
  else if 400 < size then f.infinity
  else f.nearest (m * Nat.pow 10 e.toNat) (Nat.pow 10 (-e).toNat)

end Format

end TouchPanel.Binary
