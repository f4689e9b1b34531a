import Mathlib.Data.List.TakeWhile
import TouchPanel.Text.Decimal

/-!
This module contains the number that is read back from a number in decimals (`reread`). Main
statement: `readDecimal_fixed`. What is written with some places can always be read, and gives that
number.
-/

namespace TouchPanel.Text

open Binary

/--
The number nearest to what a number comes to when it is written with a fixed number of places. All
that is no number is read as the same one.
-/
def reread (places : Nat) (x : Float32) : Float32 :=
  let word := magnitude x
  if Format.single.infinity < word then
    Float32.ofBits 0x7FC00000
  else if word = Format.single.infinity then
    ofMagnitude (isNegative x) Format.single.infinity
  else
    let (n, d) := Format.single.ratio word
    ofMagnitude (isNegative x)
      (Format.single.ofDecimal (roundEven (n * Nat.pow 10 places) d) (-(places : Int)))

theorem isDigit_of_mem_toDigits {n : Nat} {c : Char} (h : c ∈ Nat.toDigits 10 n) : c.isDigit :=
  Nat.isDigit_of_mem_toDigits (by decide) (by decide) h

def decimals (places n : Nat) : List Char :=
  let rest := Nat.toDigits 10 (n % Nat.pow 10 places)
  List.replicate (places - rest.length) '0' ++ rest

theorem placed_eq (places n : Nat) :
    placed places n = Nat.toDigits 10 (n / Nat.pow 10 places) ++ '.' :: decimals places n := rfl

theorem isDigit_of_mem_decimals {places n : Nat} {c : Char} (h : c ∈ decimals places n) :
    c.isDigit := by
  unfold decimals at h
  rcases List.mem_append.1 h with h | h
  . rw [List.eq_of_mem_replicate h]
    rfl
  . exact isDigit_of_mem_toDigits h

theorem length_decimals {places : Nat} (hplaces : 0 < places) (n : Nat) :
    (decimals places n).length = places := by
  have hlength : (Nat.toDigits 10 (n % Nat.pow 10 places)).length ≤ places :=
    (Nat.length_toDigits_le_iff (by decide) hplaces).2 (Nat.mod_lt _ (Nat.pow_pos (by decide)))
  unfold decimals
  rw [List.length_append, List.length_replicate]
  omega

theorem ofDigitChars_placed {places : Nat} (hplaces : 0 < places) (n : Nat) :
    Nat.ofDigitChars 10 (Nat.toDigits 10 (n / Nat.pow 10 places) ++ decimals places n) 0 = n := by
  have hvalue : Nat.ofDigitChars 10 (decimals places n) 0 = n % Nat.pow 10 places := by
    unfold decimals
    rw [Nat.ofDigitChars_append, Nat.ofDigitChars_replicate_zero, Nat.mul_zero,
      Nat.ofDigitChars_ten_toDigits]
  rw [Nat.ofDigitChars_append, Nat.ofDigitChars_ten_toDigits, Nat.ofDigitChars_eq_ofDigitChars_zero,
    hvalue, length_decimals hplaces]
  exact Nat.div_add_mod n (Nat.pow 10 places)

theorem readUnsigned_placed {places : Nat} (hplaces : 0 < places) (n : Nat) :
    readUnsigned (placed places n) = some ⟨n, -(places : Int)⟩ := by
  have hwhole : ∀ c ∈ Nat.toDigits 10 (n / Nat.pow 10 places), c.isDigit := fun _ =>
    isDigit_of_mem_toDigits
  have hdecimals : ∀ c ∈ decimals places n, c.isDigit := fun _ => isDigit_of_mem_decimals
  have hpoint : ¬ ('.' : Char).isDigit = true := by decide
  unfold readUnsigned
  rw [placed_eq, List.takeWhile_append_of_pos hwhole, List.dropWhile_append_of_pos hwhole,
    List.takeWhile_cons_of_neg hpoint, List.dropWhile_cons_of_neg hpoint, List.append_nil]
  simp only [List.takeWhile_eq_self_iff.2 hdecimals, List.dropWhile_eq_nil_iff.2 hdecimals,
    ofDigitChars_placed hplaces, length_decimals hplaces]
  have hempty : (Nat.toDigits 10 (n / Nat.pow 10 places)).isEmpty = false := by
    rw [List.isEmpty_eq_false_iff]
    exact Nat.toDigits_ne_nil
  rw [hempty]
  rfl

theorem readMagnitude_placed {places : Nat} (hplaces : 0 < places) (n : Nat) (negative : Bool) :
    readMagnitude negative (placed places n) =
      some (ofMagnitude negative (Format.single.ofDecimal n (-(places : Int)))) := by
  -- The words that stand for what is no finite number have no point in them.
  have hword : ∀ word : String, '.' ∉ word.toList →
      String.ofList ((placed places n).map Char.toLower) ≠ word := by
    intro word hword heq
    apply hword
    rw [← heq, String.toList_ofList, placed_eq, List.map_append, List.map_cons]
    exact List.mem_append_right _ List.mem_cons_self
  unfold readMagnitude
  dsimp only
  rw [if_neg (hword _ (by decide)), if_neg, readUnsigned_placed hplaces]
  . rfl
  . rw [Bool.or_eq_true, decide_eq_true_eq, decide_eq_true_eq, not_or]
    exact ⟨hword _ (by decide), hword _ (by decide)⟩

theorem exists_cons_placed (places n : Nat) :
    ∃ c cs, placed places n = c :: cs ∧ c ≠ '-' ∧ c ≠ '+' := by
  rw [placed_eq]
  cases hdigits : Nat.toDigits 10 (n / Nat.pow 10 places) with
  | nil => exact absurd hdigits Nat.toDigits_ne_nil
  | cons c cs =>
    have hc : c.isDigit := isDigit_of_mem_toDigits (hdigits ▸ List.mem_cons_self)
    refine ⟨c, _, rfl, ?_, ?_⟩
    . rintro rfl
      exact absurd hc (by decide)
    . rintro rfl
      exact absurd hc (by decide)

theorem readDecimal_signed {negative : Bool} {digits : List Char} {x : Float32}
    (hfirst : ∃ c cs, digits = c :: cs ∧ c ≠ '-' ∧ c ≠ '+')
    (h : readMagnitude negative digits = some x) :
    readDecimal (if negative then '-' :: digits else digits) = .ok x := by
  obtain ⟨c, cs, rfl, hminus, hplus⟩ := hfirst
  cases negative with
  | true =>
    unfold readDecimal
    simp only [if_true, h]
    rfl
  | false =>
    unfold readDecimal
    simp only [Bool.false_eq_true, if_false, List.isEmpty_cons]
    split
    . next heq =>
      split at heq
      . next hcons => exact absurd (List.cons.inj hcons).1 hminus
      . next hcons => exact absurd (List.cons.inj hcons).1 hplus
      . rw [h] at heq
        rw [Option.some.inj heq]
    . next heq =>
      split at heq
      . next hcons => exact absurd (List.cons.inj hcons).1 hminus
      . next hcons => exact absurd (List.cons.inj hcons).1 hplus
      . rw [h] at heq
        contradiction

/--
A number that is written with some places can be read.
-/
theorem readDecimal_fixed {places : Nat} (hplaces : 0 < places) (x : Float32) :
    readDecimal (fixed places x) = .ok (reread places x) := by
  unfold fixed reread
  dsimp only
  split
  . rfl
  . by_cases hinfinite : magnitude x = Format.single.infinity
    . rw [if_pos hinfinite, if_pos hinfinite]
      exact readDecimal_signed ⟨'i', _, rfl, by decide, by decide⟩ rfl
    . rw [if_neg hinfinite, if_neg hinfinite]
      exact readDecimal_signed (exists_cons_placed _ _) (readMagnitude_placed hplaces _ _)

end TouchPanel.Text
