/-!
This module contains whole numbers as bytes, the least significant byte first. Main statements:
reading gives back what was written, for natural numbers (`readNat_writeNat`) and for signed ones
(`readInt_writeInt`), as far as the bytes reach.
-/

namespace TouchPanel.Kernel.LittleEndian

/--
The lowest `width` bytes of a number.
-/
def writeNat : Nat → Nat → List UInt8
  | 0, _ => []
  | width + 1, n => UInt8.ofNat n :: writeNat width (n / 256)

def readNat (bytes : List UInt8) : Nat :=
  bytes.foldr (fun byte n => byte.toNat + 256 * n) 0

def count (width : Nat) : Nat := Nat.pow 256 width

@[simp]
theorem count_zero : count 0 = 1 := rfl

theorem count_succ (width : Nat) : count (width + 1) = count width * 256 := rfl

theorem count_pos (width : Nat) : 0 < count width := Nat.pow_pos (by decide)

def writeInt (width : Nat) (n : Int) : List UInt8 :=
  writeNat width (n % count width).toNat

def readInt (bytes : List UInt8) : Int :=
  Int.bmod (readNat bytes) (count bytes.length)

@[simp]
theorem length_writeNat (width n : Nat) : (writeNat width n).length = width := by
  induction width generalizing n with
  | zero => rfl
  | succ width ih => simp [writeNat, ih]

@[simp]
theorem length_writeInt (width : Nat) (n : Int) : (writeInt width n).length = width :=
  length_writeNat _ _

theorem readNat_writeNat {width n : Nat} (h : n < count width) :
    readNat (writeNat width n) = n := by
  induction width generalizing n with
  | zero =>
    rw [count_zero] at h
    simp [writeNat, readNat, Nat.lt_one_iff.1 h]
  | succ width ih =>
    have hdiv : n / 256 < count width := by
      rw [Nat.div_lt_iff_lt_mul (by decide)]
      rwa [count_succ] at h
    have hih := ih hdiv
    simp only [writeNat, readNat, List.foldr_cons, UInt8.toNat_ofNat'] at hih ⊢
    rw [hih]
    omega

theorem readInt_writeInt {width : Nat} {n : Int} (hleast : -(count width : Int) ≤ 2 * n)
    (hgreatest : 2 * n < count width) : readInt (writeInt width n) = n := by
  have hpos : (0 : Int) < count width := Int.natCast_pos.2 (count_pos width)
  have hnonneg := Int.emod_nonneg n (Int.ne_of_gt hpos)
  have hmod : (n % count width).toNat < count width := by
    have := Int.emod_lt_of_pos n hpos
    omega
  unfold readInt
  rw [length_writeInt, writeInt, readNat_writeNat hmod, Int.toNat_of_nonneg hnonneg,
    Int.emod_bmod]
  apply Int.bmod_eq_of_le_mul_two <;> omega

end TouchPanel.Kernel.LittleEndian
