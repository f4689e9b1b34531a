/-!
This module contains the reading of whole numbers from decimal digits, with the reason why a text is
refused. Main statements: reading gives back a number that was written and is in range
(`readNat_toString`).
-/

namespace TouchPanel.Text

inductive NumberFault where
  | emptyInteger
  | invalidDigit
  | tooLarge
  | emptyDecimal
  | invalidDecimal
  deriving DecidableEq, Repr, Inhabited

def NumberFault.message : NumberFault → String
  | .emptyInteger => "cannot parse integer from empty string"
  | .invalidDigit => "invalid digit found in string"
  | .tooLarge => "number too large to fit in target type"
  | .emptyDecimal => "cannot parse float from empty string"
  | .invalidDecimal => "invalid float literal"

def digit? (c : Char) : Option Nat :=
  if c.isDigit then some (c.toNat - '0'.toNat) else none

/--
Reads digits after those that gave `acc`. A digit that passes the limit ends the reading before the
characters after it are looked at.
-/
def readDigits (limit : Nat) : Nat → List Char → Except NumberFault Nat
  | acc, [] => .ok acc
  | acc, c :: cs =>
    match digit? c with
    | none => .error .invalidDigit
    | some d =>
      if 10 * acc + d ≤ limit then readDigits limit (10 * acc + d) cs else .error .tooLarge

/--
Reads a natural number up to `limit`: digits, which a plus sign may precede.
-/
def readNat (limit : Nat) (cs : List Char) : Except NumberFault Nat :=
  match cs with
  | [] => .error .emptyInteger
  | ['+'] => .error .invalidDigit
  | '+' :: digits => readDigits limit 0 digits
  | digits => readDigits limit 0 digits

/--
A number in lower-case hexadecimal digits, at least `width` of them.
-/
def hexadecimal (width n : Nat) : String :=
  let digits := Nat.toDigits 16 n
  String.ofList (List.replicate (width - digits.length) '0' ++ digits)

theorem readDigits_eq_ok {limit acc : Nat} {cs : List Char} (hcs : ∀ c ∈ cs, c.isDigit)
    (hle : Nat.ofDigitChars 10 cs acc ≤ limit) :
    readDigits limit acc cs = .ok (Nat.ofDigitChars 10 cs acc) := by
  induction cs generalizing acc with
  | nil => simp [readDigits]
  | cons c cs ih =>
    have hc : c.isDigit := hcs c (by simp)
    have hgrow : ∀ (ds : List Char) (n : Nat), n ≤ Nat.ofDigitChars 10 ds n := by
      intro ds
      induction ds with
      | nil => simp
      | cons d ds ih =>
        intro n
        rw [Nat.ofDigitChars_cons]
        exact Nat.le_trans (by omega) (ih _)
    rw [Nat.ofDigitChars_cons] at hle ⊢
    have hstep : 10 * acc + (c.toNat - '0'.toNat) ≤ limit := Nat.le_trans (hgrow cs _) hle
    simp only [readDigits, digit?, hc, if_true, hstep]
    exact ih (fun d hd => hcs d (List.mem_cons_of_mem _ hd)) hle

theorem le_of_readDigits {limit acc n : Nat} {cs : List Char} (hacc : acc ≤ limit)
    (h : readDigits limit acc cs = .ok n) : n ≤ limit := by
  induction cs generalizing acc with
  | nil =>
    obtain rfl := Except.ok.inj h
    exact hacc
  | cons c cs ih =>
    unfold readDigits at h
    split at h
    . contradiction
    . split at h
      . next hle => exact ih hle h
      . contradiction

theorem le_of_readNat {limit n : Nat} {cs : List Char} (h : readNat limit cs = .ok n) :
    n ≤ limit := by
  unfold readNat at h
  split at h
  . contradiction
  . contradiction
  . exact le_of_readDigits (Nat.zero_le _) h
  . exact le_of_readDigits (Nat.zero_le _) h

theorem readNat_eq_readDigits {limit : Nat} {c : Char} {cs : List Char} (h : c.isDigit) :
    readNat limit (c :: cs) = readDigits limit 0 (c :: cs) := by
  unfold readNat
  split <;> simp_all

theorem readNat_toDigits {limit n : Nat} (h : n ≤ limit) :
    readNat limit (Nat.toDigits 10 n) = .ok n := by
  have hdigit : ∀ c ∈ Nat.toDigits 10 n, c.isDigit := fun c hc =>
    Nat.isDigit_of_mem_toDigits (by decide) (by decide) hc
  match hd : Nat.toDigits 10 n with
  | [] => exact absurd hd Nat.toDigits_ne_nil
  | c :: cs =>
    rw [readNat_eq_readDigits (hdigit c (by simp [hd])), ← hd,
      readDigits_eq_ok hdigit (by simpa [Nat.ofDigitChars_ten_toDigits] using h),
      Nat.ofDigitChars_ten_toDigits]

theorem readNat_toString {limit n : Nat} (h : n ≤ limit) :
    readNat limit (toString n).toList = .ok n := by
  simpa using readNat_toDigits h

end TouchPanel.Text
