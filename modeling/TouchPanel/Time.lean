/-!
This module contains the arithmetic of times, which are words of 64 bits that never wrap.
-/

namespace TouchPanel.Time

/--
The time from `start` to `now`, zero if `now` is the earlier one.
-/
def elapsed (start now : UInt64) : UInt64 :=
  if start ≤ now then now - start else 0

/--
The time `step` after `t`, or the last time there is.
-/
def after (t step : UInt64) : UInt64 :=
  UInt64.ofNatClamp (t.toNat + step.toNat)

def times (count t : UInt64) : UInt64 :=
  UInt64.ofNatClamp (count.toNat * t.toNat)

@[simp]
theorem toNat_elapsed (start now : UInt64) :
    (elapsed start now).toNat = now.toNat - start.toNat := by
  unfold elapsed
  split
  . exact UInt64.toNat_sub_of_le _ _ ‹_›
  . rename_i h
    rw [UInt64.not_le, UInt64.lt_iff_toNat_lt] at h
    simp only [UInt64.toNat_zero]
    omega

theorem toNat_ofNatClamp (n : Nat) : (UInt64.ofNatClamp n).toNat = min n (UInt64.size - 1) := by
  unfold UInt64.ofNatClamp
  split
  . rename_i h
    simp only [UInt64.toNat_ofNatLT]
    simp only [UInt64.size] at h ⊢
    omega
  . rename_i h
    simp only [UInt64.size] at h
    simp only [UInt64.toNat_ofNatLT, UInt64.size]
    omega

@[simp]
theorem toNat_after (t step : UInt64) :
    (after t step).toNat = min (t.toNat + step.toNat) (UInt64.size - 1) :=
  toNat_ofNatClamp _

@[simp]
theorem toNat_times (count t : UInt64) :
    (times count t).toNat = min (count.toNat * t.toNat) (UInt64.size - 1) :=
  toNat_ofNatClamp _

end TouchPanel.Time
