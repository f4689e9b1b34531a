import Mathlib.Algebra.Group.Nat.Defs
import TouchPanel.Binary.Single

/-!
This module contains bounds of 32-bit numbers. Products are rounded, but a product of numbers that
are at most whole numbers is at most the product of those, as long as it has no more than 24 bits
(`isAtMost_mul`): the whole number itself is a 32-bit number, and rounding never goes past one.
-/

namespace TouchPanel.Binary

open Float.Model (UnpackedFloat)
open Float.Model.UnpackedFloat (ExtendedMantissa)

/--
A number lies between zero and a whole number, or it is not a number.
-/
def IsAtMost (n : Nat) : UnpackedFloat → Prop
  | .notANumber => True
  | .zero _ => True
  | .finite .positive m e _ => -149 ≤ e ∧ e ≤ 0 ∧ m ≤ n * 2 ^ (-e).toNat
  | _ => False

theorem mantissa_shiftRight (em : ExtendedMantissa) (k : Nat) :
    (em >>> k).mantissa = em.mantissa / 2 ^ k := by
  induction k with
  | zero => exact (Nat.div_one _).symm
  | succ k ih =>
    have hstep : em >>> (k + 1) = (em >>> k).shiftRightOne := rfl
    rw [hstep, Nat.pow_succ, ← Nat.div_div_eq_div_mul, ← ih]
    rfl

theorem shiftRight_mul (n k : Nat) :
    (⟨n * 2 ^ k, false, false⟩ : ExtendedMantissa) >>> k = ⟨n, false, false⟩ := by
  induction k generalizing n with
  | zero =>
    rw [Nat.pow_zero, Nat.mul_one]
    rfl
  | succ k ih =>
    have hstep (em : ExtendedMantissa) : em >>> (k + 1) = (em >>> k).shiftRightOne := rfl
    rw [hstep, Nat.pow_succ, Nat.mul_comm (2 ^ k), ← Nat.mul_assoc, ih]
    simp [ExtendedMantissa.shiftRightOne]

theorem roundedMantissa_le (em : ExtendedMantissa) : em.roundedMantissa ≤ em.mantissa + 1 := by
  obtain ⟨m, round, sticky⟩ := em
  have hmod : m % 2 ≤ 1 := Nat.le_of_lt_succ (Nat.mod_lt m (by decide))
  cases round <;> cases sticky <;>
    simp [ExtendedMantissa.roundedMantissa, ExtendedMantissa.accuracy,
      UnpackedFloat.Accuracy.roundToNearestEven, hmod]

theorem mantissa_le_roundedMantissa (em : ExtendedMantissa) :
    em.mantissa ≤ em.roundedMantissa := by
  obtain ⟨m, round, sticky⟩ := em
  cases round <;> cases sticky <;>
    simp [ExtendedMantissa.roundedMantissa, ExtendedMantissa.accuracy,
      UnpackedFloat.Accuracy.roundToNearestEven]

theorem roundedMantissa_shiftRight_le {m k n : Nat} (h : m ≤ n * 2 ^ k) :
    ((⟨m, false, false⟩ : ExtendedMantissa) >>> k).roundedMantissa ≤ n := by
  rcases Nat.lt_or_eq_of_le h with hlt | rfl
  . calc ((⟨m, false, false⟩ : ExtendedMantissa) >>> k).roundedMantissa
      _ ≤ ((⟨m, false, false⟩ : ExtendedMantissa) >>> k).mantissa + 1 := roundedMantissa_le _
      _ = m / 2 ^ k + 1 := by rw [mantissa_shiftRight]
      _ ≤ n := (Nat.div_lt_iff_lt_mul (Nat.two_pow_pos k)).2 hlt
  . rw [shiftRight_mul]
    exact Nat.le_refl n

theorem targetExponent_eq (exponent : Int) :
    Float.Model.Format.binary32.targetExponent exponent = max (exponent - 24) (-149) := rfl

theorem targetExponent_le {n m : Nat} {e : Int} (hn : n < 2 ^ 24) (he : e ≤ 0)
    (h : m ≤ n * 2 ^ (-e).toNat) :
    Float.Model.Format.binary32.targetExponent (Float.Model.totalExponent m e) ≤ 0 := by
  have hlog : (m.log2 : Int) + e < 24 := by
    by_cases hm : m = 0
    . subst hm
      simp
      omega
    . have hlt : m < 2 ^ (24 + (-e).toNat) := calc m
        _ ≤ n * 2 ^ (-e).toNat := h
        _ < 2 ^ 24 * 2 ^ (-e).toNat := Nat.mul_lt_mul_of_pos_right hn (Nat.two_pow_pos _)
        _ = 2 ^ (24 + (-e).toNat) := (Nat.pow_add ..).symm
      have hbits := (Nat.log2_lt hm).2 hlt
      omega
  rw [targetExponent_eq]
  unfold Float.Model.totalExponent
  omega

theorem shiftToTargetExponent_le {n m : Nat} {e : Int} (hn : n < 2 ^ 24) (he : e ≤ 0)
    (h : m ≤ n * 2 ^ (-e).toNat) :
    let shifted := UnpackedFloat.shiftToTargetExponent Float.Model.Format.binary32 m e .exact
    shifted.2 ≤ 0 ∧ -149 ≤ shifted.2 ∧
      shifted.1.roundedMantissa ≤ n * 2 ^ (-shifted.2).toNat := by
  have htarget := targetExponent_le hn he h
  have hleast : -149 ≤
      Float.Model.Format.binary32.targetExponent (Float.Model.totalExponent m e) := by
    rw [targetExponent_eq]
    exact Int.le_max_right _ _
  unfold UnpackedFloat.shiftToTargetExponent UnpackedFloat.shiftToExponent
  dsimp only
  generalize Float.Model.Format.binary32.targetExponent (Float.Model.totalExponent m e) = target
    at htarget hleast ⊢
  refine ⟨by omega, by omega, ?_⟩
  apply roundedMantissa_shiftRight_le
  have hsplit : (-e).toNat = (-(e + (target - e).toNat)).toNat + (target - e).toNat := by omega
  rw [Nat.mul_assoc, ← Nat.pow_add, ← hsplit]
  exact h

theorem isAtMost_of_mantissa_le {n m : Nat} {e : Int} (hleast : -149 ≤ e) (hgreatest : e ≤ 0)
    (h : m ≤ n * 2 ^ (-e).toNat) :
    IsAtMost n (if hzero : m = 0 then .zero .positive
      else .finite .positive m e (Nat.zero_lt_of_ne_zero hzero)) := by
  cases m with
  | zero => trivial
  | succ m => exact ⟨hleast, hgreatest, h⟩

theorem isAtMost_roundWithAccuracy {n m : Nat} {e : Int} (hn : n < 2 ^ 24) (he : e ≤ 0)
    (h : m ≤ n * 2 ^ (-e).toNat) :
    IsAtMost n
      (UnpackedFloat.roundWithAccuracy Float.Model.Format.binary32 .positive m e .exact) := by
  obtain ⟨hfirst, -, hrounded⟩ := shiftToTargetExponent_le hn he h
  obtain ⟨hlast, hleast, hfinal⟩ := shiftToTargetExponent_le hn hfirst hrounded
  exact isAtMost_of_mantissa_le hleast hlast
    (Nat.le_trans (mantissa_le_roundedMantissa _) hfinal)

theorem isAtMost_mul {m n : Nat} {x y : UnpackedFloat} (h : m * n < 2 ^ 24) (hx : IsAtMost m x)
    (hy : IsAtMost n y) :
    IsAtMost (m * n) (UnpackedFloat.mul Float.Model.Format.binary32 x y) := by
  cases x with
  | infinity => contradiction
  | notANumber => trivial
  | zero sign =>
    cases y with
    | infinity => contradiction
    | notANumber | zero | finite => trivial
  | finite sign a e ha =>
    cases y with
    | infinity => contradiction
    | notANumber | zero => trivial
    | finite sign' b e' hb =>
      cases sign with
      | negative => contradiction
      | positive =>
        cases sign' with
        | negative => contradiction
        | positive =>
          obtain ⟨-, he, hm⟩ := hx
          obtain ⟨-, he', hn⟩ := hy
          apply isAtMost_roundWithAccuracy h (Int.add_nonpos he he')
          have hsplit : (-(e + e')).toNat = (-e).toNat + (-e').toNat := by omega
          calc a * b
            _ ≤ m * 2 ^ (-e).toNat * (n * 2 ^ (-e').toNat) := Nat.mul_le_mul hm hn
            _ = m * n * 2 ^ (-(e + e')).toNat := by
              rw [hsplit, Nat.pow_add, Nat.mul_mul_mul_comm]

theorem isAtMost_ofNat {n : Nat} (h : n < 2 ^ 24) :
    IsAtMost n (UnpackedFloat.ofNat Float.Model.Format.binary32 n) := by
  unfold UnpackedFloat.ofNat UnpackedFloat.ofInt UnpackedFloat.normalize
  split
  . next hnegative =>
    rw [Int.compare_eq_lt] at hnegative
    omega
  . trivial
  . unfold UnpackedFloat.round UnpackedFloat.decreaseExponent
    dsimp only
    generalize (0 - Float.Model.Format.binary32.targetExponent
      (Float.Model.totalExponent (n : Int).toNat 0)).toNat = shift
    have hshift : (-(0 - (shift : Int))).toNat = shift := by omega
    apply isAtMost_roundWithAccuracy h (by omega)
    apply Nat.le_of_eq
    rw [hshift, Int.toNat_natCast, Nat.shiftLeft_eq]

theorem toNat_unpackMantissa (word : BitVec 32) :
    (@UnpackedFloat.unpackMantissa Float.Model.Format.binary32 word).toNat =
      word.toNat % 2 ^ 23 :=
  BitVec.extractLsb_toNat 22 0 word

theorem toNat_unpackExponent (word : BitVec 32) :
    (@UnpackedFloat.unpackExponent Float.Model.Format.binary32 word).toNat =
      word.toNat / 2 ^ 23 % 2 ^ 8 := by
  rw [← Nat.shiftRight_eq_div_pow]
  exact BitVec.extractLsb_toNat 30 23 word

theorem toNat_unpackSign (word : BitVec 32) :
    (@UnpackedFloat.unpackSign Float.Model.Format.binary32 word).toNat =
      word.toNat / 2 ^ 31 % 2 := by
  rw [← Nat.shiftRight_eq_div_pow]
  exact BitVec.extractLsb_toNat 31 31 word

theorem toNat_implicit (mantissa : BitVec 23) :
    (1#1 ++ mantissa).toNat = 2 ^ 23 + mantissa.toNat := by
  rw [BitVec.toNat_append, ← Nat.shiftLeft_add_eq_or_of_lt mantissa.isLt]
  rfl

theorem ofBitVec_eq_positive_iff (bit : BitVec 1) :
    UnpackedFloat.Sign.ofBitVec bit = .positive ↔ bit.toNat = 0 := by
  have hbit : bit.toNat = 0 ↔ bit = 0#1 :=
    ⟨fun h => BitVec.eq_of_toNat_eq h, fun h => congrArg BitVec.toNat h⟩
  unfold UnpackedFloat.Sign.ofBitVec
  rw [hbit]
  split
  . next h => exact iff_of_true rfl h
  . next h => exact iff_of_false nofun h

/--
The number that a word stands for, told from its parts. Only the sign of a number with a value
matters here.
-/
inductive Unpacks (word : Nat) : UnpackedFloat → Prop where
  | infinity (sign : UnpackedFloat.Sign) (hfield : word / 2 ^ 23 % 2 ^ 8 = 255) :
    Unpacks word (.infinity sign)
  | notANumber (hfield : word / 2 ^ 23 % 2 ^ 8 = 255) (hfraction : word % 2 ^ 23 ≠ 0) :
    Unpacks word .notANumber
  | zero (sign : UnpackedFloat.Sign) (hfield : word / 2 ^ 23 % 2 ^ 8 = 0)
    (hfraction : word % 2 ^ 23 = 0) : Unpacks word (.zero sign)
  | subnormal {sign : UnpackedFloat.Sign} {m : Nat} {e : Int} {hm : 0 < m}
    (hsign : sign = .positive ↔ word / 2 ^ 31 % 2 = 0) (hfield : word / 2 ^ 23 % 2 ^ 8 = 0)
    (hmantissa : m = word % 2 ^ 23) (hexponent : e = -149) :
    Unpacks word (.finite sign m e hm)
  | normal {sign : UnpackedFloat.Sign} {m : Nat} {e : Int} {hm : 0 < m}
    (hsign : sign = .positive ↔ word / 2 ^ 31 % 2 = 0) (hleast : word / 2 ^ 23 % 2 ^ 8 ≠ 0)
    (hgreatest : word / 2 ^ 23 % 2 ^ 8 ≠ 255) (hmantissa : m = 2 ^ 23 + word % 2 ^ 23)
    (hexponent : e = (word / 2 ^ 23 % 2 ^ 8 : Nat) - 150) :
    Unpacks word (.finite sign m e hm)

theorem unpacks_unpack (word : BitVec 32) :
    Unpacks word.toNat (UnpackedFloat.unpack Float.Model.Format.binary32 word) := by
  have hmantissa := toNat_unpackMantissa word
  have hexponent := toNat_unpackExponent word
  have hsign := ofBitVec_eq_positive_iff
    (@UnpackedFloat.unpackSign Float.Model.Format.binary32 word)
  rw [toNat_unpackSign] at hsign
  unfold UnpackedFloat.unpack
  dsimp only
  -- The choices are taken apart as they stand: `split` would rewrite inside the numbers as well.
  refine iteInduction (fun hspecial => ?_) fun hspecial => ?_
  . have hfield : word.toNat / 2 ^ 23 % 2 ^ 8 = 255 := by
      rw [← hexponent, hspecial]
      rfl
    split
    . exact .infinity _ hfield
    . next hfraction =>
      refine .notANumber hfield ?_
      rw [← hmantissa]
      exact fun hzero => hfraction (BitVec.eq_of_toNat_eq hzero)
  refine iteInduction (fun hzero => ?_) fun hzero => ?_
  . have hfield : word.toNat / 2 ^ 23 % 2 ^ 8 = 0 := by
      rw [← hexponent, hzero]
      rfl
    by_cases hfraction : @UnpackedFloat.unpackMantissa Float.Model.Format.binary32 word = 0#23
    . rw [dif_pos hfraction]
      refine .zero _ hfield ?_
      rw [← hmantissa, hfraction]
      rfl
    . rw [dif_neg hfraction]
      refine .subnormal hsign hfield hmantissa ?_
      rw [hzero]
      rfl
  . refine .normal hsign ?_ ?_ ?_ ?_
    . rw [← hexponent]
      exact fun hfield => hzero (BitVec.eq_of_toNat_eq hfield)
    . rw [← hexponent]
      exact fun hfield => hspecial (BitVec.eq_of_toNat_eq hfield)
    . rw [toNat_implicit, hmantissa]
    . rw [← hexponent]
      rfl

theorem toNat_packComponents (exponent : BitVec 8) (mantissa : BitVec 23) :
    (UnpackedFloat.packComponents Float.Model.Format.binary32 .positive exponent mantissa).toNat =
      exponent.toNat * 2 ^ 23 + mantissa.toNat := by
  change (0#1 ++ exponent ++ mantissa).toNat = _
  rw [BitVec.toNat_append, ← Nat.shiftLeft_add_eq_or_of_lt mantissa.isLt, BitVec.toNat_append,
    Nat.shiftLeft_eq]
  simp

theorem isAtMost_of_unpacks {n word : Nat} {x : UnpackedFloat} (hn : 0 < n)
    (hunpacks : Unpacks word x) (hfield : word / 2 ^ 23 ≤ 150)
    (h : word / 2 ^ 23 ≠ 0 → 2 ^ 23 + word % 2 ^ 23 ≤ n * 2 ^ (150 - word / 2 ^ 23)) :
    IsAtMost n x := by
  have hbits : word / 2 ^ 23 % 2 ^ 8 = word / 2 ^ 23 := by omega
  cases hunpacks with
  | infinity sign hspecial => omega
  | notANumber => trivial
  | zero => trivial
  | @subnormal sign m e hm hsign hzero hmantissa hexponent =>
    obtain rfl := hsign.2 (by omega)
    subst hexponent
    refine ⟨Int.le_refl _, by decide, ?_⟩
    calc m
      _ ≤ 2 ^ 23 := by omega
      _ ≤ 2 ^ 149 := Nat.pow_le_pow_right (by decide) (by decide)
      _ ≤ n * 2 ^ 149 := Nat.le_mul_of_pos_left _ hn
  | @normal sign m e hm hsign hleast hgreatest hmantissa hexponent =>
    obtain rfl := hsign.2 (by omega)
    have hshift : (-e).toNat = 150 - word / 2 ^ 23 := by omega
    refine ⟨by omega, by omega, ?_⟩
    rw [hshift, hmantissa]
    exact h (hbits ▸ hleast)

theorem pack_finite {m : Nat} {e : Int} (hm : 0 < m) (he : e ≤ 0) :
    UnpackedFloat.pack Float.Model.Format.binary32 (.finite .positive m e hm) =
      UnpackedFloat.packComponents Float.Model.Format.binary32 .positive
        (if m.log2 = 23 then BitVec.ofNat 8 (e + 150).toNat else 0#8) (BitVec.ofNat 23 m) := by
  have hexponent : e + (Float.Model.Format.binary32.exponentBias : Int) + (23 : Nat) = e + 150 := by
    change e + 127 + 23 = e + 150
    omega
  have hbits : m.log2 + 1 = Float.Model.Format.binary32.mantissaBits ↔ m.log2 = 23 := by
    change m.log2 + 1 = 24 ↔ m.log2 = 23
    omega
  unfold UnpackedFloat.pack
  dsimp only
  rw [hexponent, if_neg (by omega)]
  simp only [hbits]
  split <;> rfl

theorem isAtMost_unpack_pack {n : Nat} {x : UnpackedFloat} (h : IsAtMost n x) :
    IsAtMost n (UnpackedFloat.unpack Float.Model.Format.binary32
      (UnpackedFloat.pack Float.Model.Format.binary32 x)) := by
  cases x with
  | infinity => contradiction
  | notANumber => trivial
  | zero sign => cases sign <;> trivial
  | finite sign m e hm =>
    cases sign with
    | negative => contradiction
    | positive =>
      obtain ⟨hleast, he, hmantissa⟩ := h
      have hn : 0 < n := by
        rw [Nat.pos_iff_ne_zero]
        rintro rfl
        rw [Nat.zero_mul] at hmantissa
        omega
      have hfraction : (BitVec.ofNat 23 m).toNat = m % 2 ^ 23 := BitVec.toNat_ofNat ..
      rw [pack_finite hm he]
      apply isAtMost_of_unpacks hn (unpacks_unpack _) <;> rw [toNat_packComponents, hfraction]
      . split
        . rw [BitVec.toNat_ofNat]
          omega
        . rw [BitVec.toNat_zero]
          omega
      . split
        . next hbits =>
          have hexponent : (BitVec.ofNat 8 (e + 150).toNat).toNat = (e + 150).toNat := by
            rw [BitVec.toNat_ofNat]
            omega
          have hfull : 2 ^ 23 ≤ m := hbits ▸ Nat.log2_self_le (Nat.ne_of_gt hm)
          have hshift : 150 - ((e + 150).toNat * 2 ^ 23 + m % 2 ^ 23) / 2 ^ 23 = (-e).toNat := by
            omega
          intro _
          rw [hexponent, hshift]
          omega
        . intro hfield
          rw [BitVec.toNat_zero] at hfield
          omega

theorem lt_iff (x y : Float32) :
    x < y ↔ x.toModel.unpack.compare y.toModel.unpack = some .lt := by
  change decide (x.toModel < y.toModel) = true ↔ _
  rw [decide_eq_true_iff]
  change (x.toModel.unpack.compare y.toModel.unpack == some .lt) = true ↔ _
  rw [beq_iff_eq]

theorem isAtMost_one {word m : Nat} {e : Int} {hm : 0 < m}
    (hunpacks : Unpacks word (.finite .positive m e hm))
    (h : ¬((UnpackedFloat.finite .positive (2 ^ 23) (-23) (by decide)).compare
      (.finite .positive m e hm)) = some .lt) : IsAtMost 1 (.finite .positive m e hm) := by
  have hcompare : ¬((compare (-23) e).then (compare (2 ^ 23) m)) = .lt :=
    fun hlt => h (congrArg some hlt)
  have hbits : -149 ≤ e ∧ m < 2 ^ 24 := by
    cases hunpacks <;> omega
  have hle : e ≤ -23 := by
    apply Int.not_lt.1
    intro hgt
    rw [Int.compare_eq_lt.2 hgt] at hcompare
    exact hcompare rfl
  refine ⟨hbits.1, by omega, ?_⟩
  rw [Nat.one_mul]
  rcases Int.lt_or_eq_of_le hle with hlt | rfl
  . calc m
      _ ≤ 2 ^ 24 := Nat.le_of_lt hbits.2
      _ ≤ 2 ^ (-e).toNat := Nat.pow_le_pow_right (by decide) (by omega)
  . apply Nat.le_of_not_lt
    intro hgt
    exact hcompare (Nat.compare_eq_lt.2 hgt)

theorem isAtMost_clampUnit (x : Float32) : IsAtMost 1 (clampUnit x).toModel.unpack := by
  unfold clampUnit
  split
  . trivial
  . next hlow =>
    split
    . refine ⟨?_, ?_, ?_⟩ <;> decide
    . next hhigh =>
      have hunpacks : Unpacks x.toBits.toNat x.toModel.unpack := unpacks_unpack _
      have hzero : (0 : Float32).toModel.unpack = .zero .positive := rfl
      have hone : (1 : Float32).toModel.unpack = .finite .positive (2 ^ 23) (-23) (by decide) := rfl
      rw [lt_iff, hzero] at hlow
      rw [lt_iff, hone] at hhigh
      generalize x.toModel.unpack = u at hunpacks hlow hhigh ⊢
      cases u with
      | infinity sign =>
        cases sign with
        | negative => exact absurd rfl hlow
        | positive => exact absurd rfl hhigh
      | notANumber => trivial
      | zero => trivial
      | finite sign m e hm =>
        cases sign with
        | negative => exact absurd rfl hlow
        | positive => exact isAtMost_one hunpacks hhigh

theorem roundUp_le {m d n : Nat} (hd : 0 < d) (h : m ≤ n * d) : roundUp m d ≤ n := by
  unfold roundUp
  apply Nat.le_of_lt_succ
  rw [Nat.div_lt_iff_lt_mul (Nat.mul_pos Nat.zero_lt_two hd)]
  have hsucc : n.succ * (2 * d) = 2 * (n * d) + 2 * d := by
    rw [Nat.succ_mul, Nat.mul_left_comm]
  omega

theorem ratio_subnormal {word : Nat} (h : word < 2 ^ 23) :
    Format.single.ratio word = (word, 2 ^ 149) := by
  have hfield : word / Nat.pow 2 Format.single.fraction = 0 := Nat.div_eq_of_lt h
  unfold Format.ratio
  dsimp only
  rw [hfield, if_pos rfl]
  exact congrArg (fun m => (m, 2 ^ 149)) (Nat.mul_one word)

theorem ratio_normal {word : Nat} (hleast : word / 2 ^ 23 ≠ 0) (hgreatest : word / 2 ^ 23 ≤ 150) :
    Format.single.ratio word = (2 ^ 23 + word % 2 ^ 23, 2 ^ (150 - word / 2 ^ 23)) := by
  have hpow : Nat.pow 2 Format.single.fraction = 2 ^ 23 := rfl
  have hsingle : Format.single.least = -149 := rfl
  have hnumerator : (-149 + ((max (word / 2 ^ 23) 1 - 1 : Nat) : Int)).toNat = 0 := by omega
  have hdenominator : (-(-149 + ((max (word / 2 ^ 23) 1 - 1 : Nat) : Int))).toNat =
      150 - word / 2 ^ 23 := by omega
  unfold Format.ratio
  dsimp only
  rw [hpow, hsingle, if_neg hleast, hnumerator, hdenominator, Nat.add_comm]
  exact congrArg (fun m => (m, 2 ^ (150 - word / 2 ^ 23))) (Nat.mul_one _)

theorem nearestInt_of_lt {x : Float32} {m d : Nat} (hword : x.toBits.toNat < 2 ^ 31)
    (hfinite : x.toBits.toNat ≤ 255 * 2 ^ 23)
    (hratio : Format.single.ratio x.toBits.toNat = (m, d)) : nearestInt x = roundUp m d := by
  have hbit : Format.single.sign = 2 ^ 31 := rfl
  have hinfinity : Format.single.infinity = 255 * 2 ^ 23 := rfl
  unfold nearestInt magnitude isNegative
  dsimp only
  rw [hbit, hinfinity, Nat.mod_eq_of_lt hword, if_neg (Nat.not_lt.2 hfinite), hratio]
  exact if_neg (by simpa using hword)

theorem nearestInt_mem_of_isAtMost {n : Nat} {x : Float32} (h : IsAtMost n x.toModel.unpack) :
    0 ≤ nearestInt x ∧ nearestInt x ≤ n := by
  have hunpacks : Unpacks x.toBits.toNat x.toModel.unpack := unpacks_unpack _
  generalize x.toModel.unpack = u at h hunpacks
  have hlt : x.toBits.toNat < 2 ^ 32 := x.toBits.toNat_lt
  have hround {m d : Nat} (hd : 0 < d) (hle : m ≤ n * d) :
      0 ≤ (roundUp m d : Int) ∧ (roundUp m d : Int) ≤ n :=
    ⟨Int.natCast_nonneg _, Int.ofNat_le.2 (roundUp_le hd hle)⟩
  cases hunpacks with
  | infinity => contradiction
  | notANumber hfield hfraction =>
    have hinfinity : Format.single.infinity < magnitude x := by
      change 255 * 2 ^ 23 < x.toBits.toNat % 2 ^ 31
      omega
    unfold nearestInt
    dsimp only
    rw [if_pos hinfinity]
    omega
  | zero sign hfield hfraction =>
    have hzero : magnitude x = 0 := by
      change x.toBits.toNat % 2 ^ 31 = 0
      omega
    have hnone : roundUp 0 (2 ^ 149) = 0 := by decide
    unfold nearestInt
    dsimp only
    rw [hzero, if_neg (Nat.not_lt_zero _), ratio_subnormal (by decide)]
    dsimp only
    rw [hnone]
    split <;> omega
  | @subnormal sign m e hm hsign hfield hmantissa hexponent =>
    cases sign with
    | negative => contradiction
    | positive =>
      have hpositive := hsign.1 rfl
      obtain ⟨-, -, hle⟩ := h
      rw [nearestInt_of_lt (by omega) (by omega) (ratio_subnormal (by omega))]
      apply hround (Nat.two_pow_pos _)
      rw [hexponent] at hle
      calc x.toBits.toNat
        _ = m := by omega
        _ ≤ n * 2 ^ 149 := hle
  | @normal sign m e hm hsign hleast hgreatest hmantissa hexponent =>
    cases sign with
    | negative => contradiction
    | positive =>
      have hpositive := hsign.1 rfl
      obtain ⟨-, he, hle⟩ := h
      have hfield : x.toBits.toNat / 2 ^ 23 % 2 ^ 8 = x.toBits.toNat / 2 ^ 23 := by omega
      rw [hfield] at hleast hexponent
      rw [nearestInt_of_lt (by omega) (by omega) (ratio_normal hleast (by omega))]
      apply hround (Nat.two_pow_pos _)
      have hshift : 150 - x.toBits.toNat / 2 ^ 23 = (-e).toNat := by omega
      rw [hshift, ← hmantissa]
      exact hle

theorem isAtMost_toFloat32 {n : UInt32} (h : n.toNat < 2 ^ 24) :
    IsAtMost n.toNat n.toFloat32.toModel.unpack :=
  isAtMost_unpack_pack (isAtMost_ofNat h)

/--
A part of a whole number of 24 bits is rounded to at most the whole of it.
-/
theorem nearestInt_clampUnit_mul {n : UInt32} (h : n.toNat < 2 ^ 24) (x : Float32) :
    0 ≤ nearestInt (clampUnit x * n.toFloat32) ∧
      nearestInt (clampUnit x * n.toFloat32) ≤ n.toNat := by
  have hone : 1 * n.toNat = n.toNat := Nat.one_mul _
  have hmul := isAtMost_mul (by omega) (isAtMost_clampUnit x) (isAtMost_toFloat32 h)
  rw [hone] at hmul
  exact nearestInt_mem_of_isAtMost (isAtMost_unpack_pack hmul)

end TouchPanel.Binary
