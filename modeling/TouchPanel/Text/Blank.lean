/-!
This module contains the blank characters of text and the reading of words around which blanks and
letter case do not count: `trim` on characters, `strip` and `fold` on strings.
-/

namespace TouchPanel.Text

/--
Whether a character has the Unicode property `White_Space`.
-/
def isBlank (c : Char) : Bool :=
  let n := c.toNat
  (9 ≤ n && n ≤ 13) || n == 32 || n == 0x85 || n == 0xA0 || n == 0x1680 ||
    (0x2000 ≤ n && n ≤ 0x200A) || n == 0x2028 || n == 0x2029 || n == 0x202F || n == 0x205F ||
    n == 0x3000

def trim (cs : List Char) : List Char :=
  ((cs.dropWhile isBlank).reverse.dropWhile isBlank).reverse

def strip (s : String) : String :=
  String.ofList (trim s.toList)

/--
The form in which words are compared: stripped, with the ASCII letters in lower case.
-/
def fold (s : String) : String :=
  String.ofList ((trim s.toList).map Char.toLower)

theorem trim_eq_self {c d : Char} {cs : List Char} (hc : isBlank c = false)
    (hd : isBlank d = false) (hlast : (c :: cs).getLast? = some d) :
    trim (c :: cs) = c :: cs := by
  have hrev : (c :: cs).reverse.head? = some d := by
    rw [List.head?_reverse]; exact hlast
  unfold trim
  rw [List.dropWhile_cons_of_neg (by simp [hc])]
  match hr : (c :: cs).reverse with
  | [] => simp at hr
  | e :: es =>
    rw [hr] at hrev
    simp only [List.head?_cons, Option.some.injEq] at hrev
    subst hrev
    rw [List.dropWhile_cons_of_neg (by simp [hd]), ← hr, List.reverse_reverse]

end TouchPanel.Text
