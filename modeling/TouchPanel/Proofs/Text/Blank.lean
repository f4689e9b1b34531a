import Mathlib.Data.List.DropRight
import TouchPanel.Proofs.Text.Lines

/-!
This module contains what blanks around a word come to. A text is the word that `trim` leaves of it,
between blanks (`exists_eq_append_trim`), and `trim` is all that matters of a text if blanks are
added to it (`trim_append_append`).
-/

namespace TouchPanel.Text

variable {cs word before after : List Char}

theorem trim_append_append (hbefore : ∀ c ∈ before, isBlank c = true)
    (hafter : ∀ c ∈ after, isBlank c = true) : trim (before ++ word ++ after) = trim word := by
  have hrest : after.reverse.dropWhile isBlank = [] := by
    rw [List.dropWhile_eq_nil_iff]
    intro c hc
    exact hafter c (List.mem_reverse.1 hc)
  unfold trim
  rw [List.append_assoc, List.dropWhile_append_of_pos hbefore, List.dropWhile_append]
  split
  . next hempty =>
    have hword : word.dropWhile isBlank = [] := List.isEmpty_iff.1 hempty
    have hdrop : after.dropWhile isBlank = [] := List.dropWhile_eq_nil_iff.2 hafter
    rw [hword, hdrop]
  . rw [List.reverse_append, List.dropWhile_append_of_pos]
    intro c hc
    exact hafter c (List.mem_reverse.1 hc)

theorem trim_blank_append (h : ∀ c ∈ before, isBlank c = true) :
    trim (before ++ word) = trim word := by
  have hword := @trim_append_append word _ [] h (List.forall_mem_nil _)
  rwa [List.append_nil] at hword

theorem trim_append_blank (h : ∀ c ∈ after, isBlank c = true) :
    trim (word ++ after) = trim word :=
  trim_append_append (List.forall_mem_nil _) h

theorem exists_eq_append_trim (cs : List Char) :
    ∃ before after, cs = before ++ trim cs ++ after ∧ (∀ c ∈ before, isBlank c = true) ∧
      ∀ c ∈ after, isBlank c = true := by
  refine ⟨cs.takeWhile isBlank, (cs.dropWhile isBlank).rtakeWhile isBlank, ?_, ?_, ?_⟩
  . have hrest : cs.dropWhile isBlank =
        trim cs ++ (cs.dropWhile isBlank).rtakeWhile isBlank :=
      (List.rdropWhile_append_rtakeWhile ..).symm
    rw [List.append_assoc, ← hrest, List.takeWhile_append_dropWhile]
  . intro c hc
    exact List.mem_takeWhile_imp hc
  . intro c hc
    exact List.mem_rtakeWhile_imp hc

theorem trim_trim (cs : List Char) : trim (trim cs) = trim cs := by
  have hdrop : (trim cs).dropWhile isBlank = trim cs := by
    obtain ⟨rest, hrest⟩ : trim cs <+: cs.dropWhile isBlank := List.rdropWhile_prefix ..
    cases htrim : trim cs with
    | nil => rfl
    | cons c word =>
      have hc : isBlank c = false := by
        have hhead := List.head?_dropWhile_not isBlank cs
        rw [← hrest, htrim] at hhead
        exact hhead
      rw [List.dropWhile_cons_of_neg (by simp [hc])]
  change ((trim cs).dropWhile isBlank).rdropWhile isBlank = _
  rw [hdrop]
  exact List.rdropWhile_idempotent ..

theorem trim_chomp (line : List Char) : trim (chomp '\r' line) = trim line := by
  unfold chomp
  split
  . next hlast =>
    have hline : line = line.dropLast ++ ['\r'] := (List.dropLast_append_getLast? _ hlast).symm
    conv_rhs => rw [hline]
    rw [trim_append_blank]
    rw [List.forall_mem_singleton]
    rfl
  . rfl

theorem isBlank_eq_false_of_toLower {c : Char} (h : isBlank c.toLower = false) :
    isBlank c = false := by
  unfold Char.toLower at h
  split at h
  . next hupper =>
    obtain ⟨hleast, hgreatest⟩ := hupper
    rw [ge_iff_le, UInt32.le_iff_toNat_le] at hleast
    rw [UInt32.le_iff_toNat_le] at hgreatest
    have hvalue : 65 ≤ c.toNat ∧ c.toNat ≤ 90 := ⟨hleast, hgreatest⟩
    simp only [isBlank, Bool.or_eq_false_iff, Bool.and_eq_false_iff, decide_eq_false_iff_not,
      beq_eq_false_iff_ne]
    omega
  . exact h

end TouchPanel.Text
