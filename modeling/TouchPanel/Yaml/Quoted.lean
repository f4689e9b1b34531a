import TouchPanel.Yaml.Plain

/-!
This module contains the reading of scalars in quotes. Double quotes allow for escapes.
-/

namespace TouchPanel.Yaml

inductive Escape where
  | none
  | mark
  | digits (missing value : Nat)

def escaped? (c : Char) : Option Char :=
  match c with
  | '0' => some '\x00'
  | 'a' => some '\x07'
  | 'b' => some '\x08'
  | 't' => some '\t'
  | '\t' => some '\t'
  | 'n' => some '\n'
  | 'v' => some '\x0b'
  | 'f' => some '\x0c'
  | 'r' => some '\r'
  | 'e' => some '\x1b'
  | ' ' => some ' '
  | '"' => some '"'
  | '/' => some '/'
  | '\\' => some '\\'
  | 'N' => some '\u0085'
  | '_' => some '\u00a0'
  | 'L' => some '\u2028'
  | 'P' => some '\u2029'
  | _ => none

def escapeWidth? (c : Char) : Option Nat :=
  match c with
  | 'x' => some 2
  | 'u' => some 4
  | 'U' => some 8
  | _ => none

def hexDigit? (c : Char) : Option Nat :=
  if c.isDigit then some (c.toNat - '0'.toNat)
  else if 'a' ≤ c ∧ c ≤ 'f' then some (c.toNat - 'a'.toNat + 10)
  else if 'A' ≤ c ∧ c ≤ 'F' then some (c.toNat - 'A'.toNat + 10)
  else none

def doubleQuoted? (cursor : Cursor) : Option Scanned :=
  go [] .none .none cursor.place cursor.rest
where
  go (text : List Char) (gap : Gap) (escape : Escape) (place : Place) :
      List Char → Option Scanned
    | [] => none
    | c :: cs =>
      match escape with
      | .mark =>
        if isBreak c then
          go (gap.fold ++ text) .joined .none (place.next c) cs
        else
          match escaped? c, escapeWidth? c with
          | some d, _ => go (d :: (gap.fold ++ text)) .none .none (place.next c) cs
          | none, some width => go (gap.fold ++ text) .none (.digits width 0) (place.next c) cs
          | none, none => none
      | .digits missing value =>
        match hexDigit? c with
        | none => none
        | some d =>
          let value := 16 * value + d
          if missing ≤ 1 then
            if h : value.isValidChar then
              go (Char.ofNatAux value h :: text) gap .none (place.next c) cs
            else
              none
          else
            go text gap (.digits (missing - 1) value) (place.next c) cs
      | .none =>
        if (⟨c :: cs, place⟩ : Cursor).isBoundary then none
        else if c == '"' then some ⟨(gap.fold ++ text).reverse, ⟨cs, place.next c⟩, false⟩
        else if c == '\\' then go text gap .mark (place.next c) cs
        else if isBreak c then go text (gap.addBreak c) .none (place.next c) cs
        else if isBlank c then go text (gap.addBlank c) .none (place.next c) cs
        else go (c :: (gap.fold ++ text)) .none .none (place.next c) cs

def singleQuoted? (cursor : Cursor) : Option Scanned :=
  go [] .none false cursor.place cursor.rest
where
  go (text : List Char) (gap : Gap) (quote : Bool) (place : Place) : List Char → Option Scanned
    | [] => if quote then some ⟨(gap.fold ++ text).reverse, ⟨[], place⟩, false⟩ else none
    | c :: cs =>
      if quote then
        if c == '\'' then go ('\'' :: (gap.fold ++ text)) .none false (place.next c) cs
        else some ⟨(gap.fold ++ text).reverse, ⟨c :: cs, place⟩, false⟩
      else if (⟨c :: cs, place⟩ : Cursor).isBoundary then none
      else if c == '\'' then go text gap true (place.next c) cs
      else if isBreak c then go text (gap.addBreak c) false (place.next c) cs
      else if isBlank c then go text (gap.addBlank c) false (place.next c) cs
      else go (c :: (gap.fold ++ text)) .none false (place.next c) cs

end TouchPanel.Yaml
