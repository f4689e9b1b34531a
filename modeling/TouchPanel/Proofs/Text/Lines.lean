import Mathlib.Data.List.Induction
import Mathlib.Data.List.TakeWhile
import TouchPanel.Text.Blank
import TouchPanel.Text.Lines

/-!
This module contains what is known of text that is cut apart again after it was put together: the
parts between separators, the lines of a text, and the lines of the bytes of a text.

Main statements: `fields_intercalate`, `linesOf_join`, `linesOf_append`, and `linesOfBytes_toUTF8`,
which says that a text has the same lines as its bytes.
-/

namespace TouchPanel.Text

section Lines

variable {α : Type} [DecidableEq α] {feed carriage : α}

theorem lines_of_not_mem {text : List α} (hne : text ≠ []) (h : feed ∉ text) :
    lines feed carriage text = [text] := by
  have hdrop : text.dropWhile (fun a => !decide (a = feed)) = [] := by
    rw [List.dropWhile_eq_nil_iff]
    intro a ha
    simp only [Bool.not_eq_true', decide_eq_false_iff_not]
    exact fun heq => h (heq ▸ ha)
  unfold lines
  rw [if_neg (by simpa using hne)]
  split
  . rfl
  . next hcons =>
    rw [hdrop] at hcons
    contradiction

theorem lines_append_cons {part : List α} (h : feed ∉ part) (rest : List α) :
    lines feed carriage (part ++ feed :: rest) =
      chomp carriage part :: lines feed carriage rest := by
  have hpart : ∀ a ∈ part, (!decide (a = feed)) = true := by
    intro a ha
    simp only [Bool.not_eq_true', decide_eq_false_iff_not]
    exact fun heq => h (heq ▸ ha)
  have htake : (part ++ feed :: rest).takeWhile (fun a => !decide (a = feed)) = part := by
    rw [List.takeWhile_append_of_pos hpart, List.takeWhile_cons_of_neg (by simp), List.append_nil]
  have hdrop : (part ++ feed :: rest).dropWhile (fun a => !decide (a = feed)) = feed :: rest := by
    rw [List.dropWhile_append_of_pos hpart, List.dropWhile_cons_of_neg (by simp)]
  rw [lines, if_neg (by simp)]
  split
  . next hnil =>
    rw [hdrop] at hnil
    contradiction
  . next hcons =>
    rw [htake]
    rw [hdrop] at hcons
    obtain ⟨-, rfl⟩ := List.cons.inj hcons
    rfl

theorem chomp_of_not_mem {line : List α} (h : carriage ∉ line) : chomp carriage line = line := by
  unfold chomp
  rw [if_neg]
  intro hlast
  exact h (List.mem_of_getLast? hlast)

theorem lines_append {text : List α} (h : ∀ a, text.getLast? = some a → a = feed)
    (more : List α) :
    lines feed carriage (text ++ more) = lines feed carriage text ++ lines feed carriage more := by
  induction hlength : text.length using Nat.strongRecOn generalizing text with
  | _ length ih =>
    by_cases hmem : feed ∈ text
    . obtain ⟨part, rest, rfl, hpart⟩ := List.eq_append_cons_of_mem hmem
      have hrest : rest.length < length := by
        rw [← hlength, List.length_append, List.length_cons]
        omega
      have hlast : ∀ a, rest.getLast? = some a → a = feed := by
        intro a ha
        apply h
        rw [List.getLast?_append, List.getLast?_cons, ha]
        rfl
      rw [List.append_assoc, List.cons_append, lines_append_cons hpart, lines_append_cons hpart,
        ih rest.length hrest hlast rfl, List.cons_append]
    . have hnil : text = [] := by
        by_contra hne
        have hlast := List.getLast?_eq_some_getLast hne
        exact hmem (h _ hlast ▸ List.getLast_mem hne)
      subst hnil
      rw [List.nil_append]
      conv_rhs => rw [lines]
      rfl

end Lines

/--
The last line of a text, if it has any, has its end.
-/
def IsTerminated (text : String) : Prop :=
  ∀ c, text.toList.getLast? = some c → c = '\n'

theorem isTerminated_join (rows : List String) :
    IsTerminated (String.join (rows.map (· ++ "\n"))) := by
  intro c hc
  rw [String.toList_join] at hc
  induction rows using List.reverseRecOn with
  | nil => contradiction
  | append_singleton rows row =>
    rw [List.map_append, List.map_singleton, List.flatMap_append, List.flatMap_singleton,
      String.toList_append, ← List.append_assoc] at hc
    exact Option.some.inj (hc.symm.trans List.getLast?_concat)

theorem linesOf_append {text : String} (h : IsTerminated text) (more : String) :
    linesOf (text ++ more) = linesOf text ++ linesOf more := by
  unfold linesOf
  rw [String.toList_append, lines_append h, List.map_append]

theorem linesOf_join (rows : List String)
    (h : ∀ row ∈ rows, '\n' ∉ row.toList ∧ '\r' ∉ row.toList) :
    linesOf (String.join (rows.map (· ++ "\n"))) = rows := by
  unfold linesOf
  rw [String.toList_join]
  induction rows with
  | nil =>
    unfold lines
    rfl
  | cons row rows ih =>
    obtain ⟨⟨hfeed, hcarriage⟩, hrows⟩ := List.forall_mem_cons.1 h
    rw [List.map_cons, List.flatMap_cons, String.toList_append]
    change (lines '\n' '\r' (row.toList ++ ['\n'] ++ _)).map _ = _
    rw [List.append_assoc, List.singleton_append, lines_append_cons hfeed,
      chomp_of_not_mem hcarriage, List.map_cons, ih hrows, String.ofList_toList]

theorem fields_intercalate {α : Type} [DecidableEq α] {separator : α} (parts : List (List α))
    (hne : parts ≠ []) (h : ∀ part ∈ parts, separator ∉ part) :
    fields separator ([separator].intercalate parts) = parts := by
  induction parts with
  | nil => contradiction
  | cons part rest ih =>
    obtain ⟨hpart, hrest⟩ := List.forall_mem_cons.1 h
    cases rest with
    | nil =>
      rw [List.intercalate_singleton]
      exact fields_of_not_mem hpart
    | cons next rest =>
      rw [List.intercalate_cons_cons, List.append_assoc, List.singleton_append,
        fields_append_cons hpart, ih (List.cons_ne_nil _ _) hrest]

theorem mem_of_mem_intercalate {α : Type} {separator a : α} {parts : List (List α)}
    (h : a ∈ [separator].intercalate parts) : a = separator ∨ ∃ part ∈ parts, a ∈ part := by
  induction parts with
  | nil => contradiction
  | cons part rest ih =>
    cases rest with
    | nil =>
      rw [List.intercalate_singleton] at h
      exact .inr ⟨part, List.mem_cons_self, h⟩
    | cons next rest =>
      rw [List.intercalate_cons_cons, List.append_assoc, List.mem_append, List.mem_append,
        List.mem_singleton] at h
      rcases h with h | h | h
      . exact .inr ⟨part, List.mem_cons_self, h⟩
      . exact .inl h
      . exact (ih h).imp id fun ⟨found, hfound, ha⟩ =>
          ⟨found, List.mem_cons_of_mem _ hfound, ha⟩

theorem trim_of_not_blank {cs : List Char} (h : ∀ c ∈ cs, isBlank c = false) : trim cs = cs := by
  cases cs with
  | nil => rfl
  | cons c cs =>
    exact trim_eq_self (h c List.mem_cons_self)
      (h _ (List.getLast_mem (List.cons_ne_nil c cs))) (List.getLast?_eq_some_getLast _)

theorem head?_trim {c : Char} (cs : List Char) (h : isBlank c = false) :
    (trim (c :: cs)).head? = some c := by
  have hc : ¬ isBlank c = true := by simp [h]
  unfold trim
  rw [List.dropWhile_cons_of_neg hc, List.head?_reverse, List.reverse_cons, List.dropWhile_append]
  split
  . rw [List.dropWhile_cons_of_neg hc]
    rfl
  . rw [List.getLast?_concat]

section Encoding

open String (utf8EncodeChar)

theorem toNat_of_mem_utf8EncodeChar {c : Char} {b : UInt8} (hb : b.toNat < 128)
    (h : b ∈ utf8EncodeChar c) : c.toNat = b.toNat := by
  have hvalue : c.toNat = c.val.toNat := rfl
  unfold utf8EncodeChar at h
  dsimp only at h
  split at h
  . rw [List.mem_singleton] at h
    rw [h, UInt8.toNat_ofNat']
    omega
  . exfalso
    split at h
    . simp only [List.mem_cons, List.not_mem_nil, or_false] at h
      rcases h with rfl | rfl <;> rw [UInt8.toNat_ofNat'] at hb <;> omega
    . split at h
      . simp only [List.mem_cons, List.not_mem_nil, or_false] at h
        rcases h with rfl | rfl | rfl <;> rw [UInt8.toNat_ofNat'] at hb <;> omega
      . simp only [List.mem_cons, List.not_mem_nil, or_false] at h
        rcases h with rfl | rfl | rfl | rfl <;> rw [UInt8.toNat_ofNat'] at hb <;> omega

theorem eq_of_mem_utf8EncodeChar {c d : Char} {b : UInt8} (hb : b.toNat < 128)
    (hd : d.toNat = b.toNat) (h : b ∈ utf8EncodeChar c) : c = d :=
  Char.toNat_inj.1 ((toNat_of_mem_utf8EncodeChar hb h).trans hd.symm)

theorem chomp_flatMap (line : List Char) :
    chomp 13 (line.flatMap utf8EncodeChar) = (chomp '\r' line).flatMap utf8EncodeChar := by
  cases line using List.reverseRecOn with
  | nil => rfl
  | append_singleton init c =>
    have hencode := List.getLast?_eq_some_getLast (String.utf8EncodeChar_ne_nil (c := c))
    unfold chomp
    rw [List.flatMap_append, List.flatMap_singleton, List.getLast?_concat, List.getLast?_append,
      hencode, Option.some_or]
    by_cases hc : c = '\r'
    . subst hc
      have hreturn : utf8EncodeChar '\r' = [13] := rfl
      simp [hreturn]
    . have hlast : (utf8EncodeChar c).getLast String.utf8EncodeChar_ne_nil ≠ 13 := fun heq =>
        hc (eq_of_mem_utf8EncodeChar (by decide) rfl (heq ▸ List.getLast_mem _))
      simp [hc, hlast]

theorem lines_flatMap (text : List Char) :
    lines 10 13 (text.flatMap utf8EncodeChar) =
      (lines '\n' '\r' text).map (·.flatMap utf8EncodeChar) := by
  have hnot : ∀ part : List Char, '\n' ∉ part → 10 ∉ part.flatMap utf8EncodeChar := by
    intro part hpart hmem
    obtain ⟨c, hc, hencode⟩ := List.mem_flatMap.1 hmem
    have hfeed : c = '\n' := eq_of_mem_utf8EncodeChar (by decide) rfl hencode
    exact hpart (hfeed ▸ hc)
  have hfeed : utf8EncodeChar '\n' = [10] := rfl
  induction hlength : text.length using Nat.strongRecOn generalizing text with
  | _ length ih =>
    by_cases hmem : '\n' ∈ text
    . obtain ⟨part, rest, rfl, hpart⟩ := List.eq_append_cons_of_mem hmem
      have hrest : rest.length < length := by
        rw [← hlength, List.length_append, List.length_cons]
        omega
      rw [List.flatMap_append, List.flatMap_cons, hfeed, List.singleton_append,
        lines_append_cons (hnot part hpart), lines_append_cons hpart, chomp_flatMap,
        List.map_cons, ih rest.length hrest rest rfl]
    . cases text with
      | nil => simp [lines]
      | cons c rest =>
        have hne : (c :: rest).flatMap utf8EncodeChar ≠ [] := by
          rw [List.flatMap_cons]
          exact List.append_ne_nil_of_left_ne_nil String.utf8EncodeChar_ne_nil _
        rw [lines_of_not_mem hne (hnot _ hmem), lines_of_not_mem (List.cons_ne_nil c rest) hmem]
        rfl

theorem toList_loop (bytes : ByteArray) (index : Nat) (done : List UInt8) :
    ByteArray.toList.loop bytes index done = done.reverse ++ bytes.data.toList.drop index := by
  have hsize : bytes.data.toList.length = bytes.size := rfl
  induction hleft : bytes.size - index generalizing index done with
  | zero =>
    unfold ByteArray.toList.loop
    rw [if_neg (by omega), List.drop_eq_nil_of_le (by omega), List.append_nil]
  | succ left ih =>
    have hindex : index < bytes.data.toList.length := by omega
    have hget : bytes.get! index = bytes.data.toList[index] := by
      rw [Array.getElem_toList]
      exact getElem!_pos bytes.data index hindex
    unfold ByteArray.toList.loop
    rw [if_pos (by omega), ih _ _ (by omega), List.drop_eq_getElem_cons hindex, List.reverse_cons,
      List.append_assoc, List.singleton_append, hget]

theorem linesOfBytes_toUTF8 (s : String) :
    linesOfBytes s.toUTF8.toList = (linesOf s).map some := by
  have hbytes : s.toUTF8.toList = s.toList.flatMap utf8EncodeChar := by
    rw [String.toUTF8, ← String.utf8Encode_toList, List.utf8Encode, ByteArray.toList, toList_loop,
      List.data_toByteArray]
    rfl
  have hline : ∀ line : List Char,
      String.fromUTF8? ⟨(line.flatMap utf8EncodeChar).toArray⟩ = some (String.ofList line) := by
    intro line
    rw [← List.data_toByteArray]
    change String.fromUTF8? line.utf8Encode = _
    unfold String.fromUTF8?
    rw [dif_pos ByteArray.isValidUTF8_utf8Encode]
    rfl
  unfold linesOfBytes linesOf
  rw [hbytes, lines_flatMap, List.map_map, List.map_map]
  exact List.map_congr_left fun line _ => hline line

end Encoding

end TouchPanel.Text
