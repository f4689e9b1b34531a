/-!
This module contains the two ways of cutting text apart that the trace formats use: into lines,
which end at a line feed or at a carriage return with a line feed, and into fields between
separators. Both work on lists of any symbols, so that bytes and characters are cut alike.
-/

namespace TouchPanel.Text

def chomp [DecidableEq α] (carriage : α) (line : List α) : List α :=
  if line.getLast? = some carriage then line.dropLast else line

theorem length_lt_of_dropWhile_eq_cons {p : α → Bool} {text rest : List α} {a : α}
    (h : text.dropWhile p = a :: rest) : rest.length < text.length := by
  have hle := (List.dropWhile_sublist p (l := text)).length_le
  rw [h] at hle
  exact hle

/--
The lines of a text. The last line may lack its end, and then keeps a carriage return.
-/
def lines [DecidableEq α] (feed carriage : α) (text : List α) : List (List α) :=
  if text.isEmpty then
    []
  else
    match h : text.dropWhile (fun a => !decide (a = feed)) with
    | [] => [text]
    | _ :: rest =>
      have := length_lt_of_dropWhile_eq_cons h
      chomp carriage (text.takeWhile (fun a => !decide (a = feed))) :: lines feed carriage rest
termination_by text.length

/--
The parts of a text between separators. There is one part more than there are separators.
-/
def fields [DecidableEq α] (separator : α) : List α → List (List α)
  | [] => [[]]
  | a :: as =>
    if a = separator then
      [] :: fields separator as
    else
      match fields separator as with
      | [] => [[a]]
      | part :: parts => (a :: part) :: parts

theorem fields_ne_nil [DecidableEq α] (separator : α) (text : List α) :
    fields separator text ≠ [] := by
  cases text with
  | nil => simp [fields]
  | cons a as =>
    simp only [fields]
    split
    . simp
    . split <;> simp

theorem fields_append_cons [DecidableEq α] {separator : α} {part rest : List α}
    (h : separator ∉ part) :
    fields separator (part ++ separator :: rest) = part :: fields separator rest := by
  induction part with
  | nil => simp [fields]
  | cons a as ih =>
    simp only [List.mem_cons, not_or] at h
    simp [fields, Ne.symm h.1, ih h.2]

theorem fields_of_not_mem [DecidableEq α] {separator : α} {part : List α}
    (h : separator ∉ part) : fields separator part = [part] := by
  induction part with
  | nil => simp [fields]
  | cons a as ih =>
    simp only [List.mem_cons, not_or] at h
    simp [fields, Ne.symm h.1, ih h.2]

def linesOf (s : String) : List String :=
  (lines '\n' '\r' s.toList).map String.ofList

/--
The lines of a byte string, each read as UTF-8 on its own. `none` stands for a line whose bytes are
not valid.
-/
def linesOfBytes (bytes : List UInt8) : List (Option String) :=
  (lines 10 13 bytes).map fun line => String.fromUTF8? ⟨line.toArray⟩

end TouchPanel.Text
