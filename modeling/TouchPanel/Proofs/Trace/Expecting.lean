import TouchPanel.Proofs.Gesture.Label
import TouchPanel.Proofs.Text.Blank
import TouchPanel.Proofs.Trace.Rows

/-!
This module contains what is read from a text that expects gestures: exactly the kinds whose labels
it lists (`readKindBytes_eq_ok_iff`). Labels may be written in either case and between blanks, and
lines that are blank or comments may stand among them.
-/

namespace TouchPanel.Trace

open Gesture (Kind)
open Text (isBlank trim)

def IsPassed (line : String) : Prop :=
  ∃ before rest, line.toList = before ++ rest ∧ (∀ c ∈ before, isBlank c = true) ∧
    (rest = [] ∨ rest.head? = some '#')

/--
A line that names a kind: its label, with letters in either case, between blanks.
-/
def Names (line : String) (kind : Kind) : Prop :=
  ∃ before word after, line.toList = before ++ word ++ after ∧
    (∀ c ∈ before, isBlank c = true) ∧ (∀ c ∈ after, isBlank c = true) ∧
    word.map Char.toLower = kind.label.toList

/--
Lines that name kinds, one each, among lines that name none.
-/
inductive Lists : List Kind → List String → Prop where
  | nil : Lists [] []
  | passed {kinds : List Kind} {line : String} {lines : List String} (h : IsPassed line)
    (hlines : Lists kinds lines) : Lists kinds (line :: lines)
  | label {kind : Kind} {kinds : List Kind} {line : String} {lines : List String}
    (h : Names line kind) (hlines : Lists kinds lines) : Lists (kind :: kinds) (line :: lines)

def textOf (lines : List String) : String := "\n".intercalate lines

theorem isPassed_iff (line : String) :
    IsPassed line ↔ trim line.toList = [] ∨ (trim line.toList).head? = some '#' := by
  constructor
  . rintro ⟨before, rest, hline, hbefore, hrest⟩
    rw [hline, Text.trim_blank_append hbefore]
    rcases hrest with rfl | hcomment
    . exact Or.inl rfl
    . obtain ⟨text, rfl⟩ := List.head?_eq_some_iff.1 hcomment
      exact Or.inr (Text.head?_trim text (by decide))
  . intro h
    obtain ⟨before, after, hline, hbefore, hafter⟩ := Text.exists_eq_append_trim line.toList
    rcases h with hnil | hcomment
    . rw [hnil, List.append_nil] at hline
      have hblank := List.forall_mem_append.2 ⟨hbefore, hafter⟩
      exact ⟨before ++ after, [], by rw [hline, List.append_nil], hblank, Or.inl rfl⟩
    . refine ⟨before, trim line.toList ++ after, ?_, hbefore, Or.inr ?_⟩
      . rw [← List.append_assoc, ← hline]
      . rw [List.head?_append, hcomment]
        rfl

theorem head?_label (kind : Kind) : ∃ c, kind.label.toList.head? = some c ∧ c ≠ '#' := by
  cases kind with
  | click => exact ⟨'c', rfl, by decide⟩
  | hold => exact ⟨'h', rfl, by decide⟩
  | drag axis => cases axis <;> exact ⟨'d', rfl, by decide⟩
  | dragEnd axis swipe =>
    rcases swipe with _ | _ | _ <;> cases axis
    case none.horizontal => exact ⟨'d', rfl, by decide⟩
    case some.left.horizontal => exact ⟨'p', rfl, by decide⟩
    case some.right.horizontal => exact ⟨'p', rfl, by decide⟩
    all_goals exact ⟨'d', rfl, by decide⟩

theorem names_iff (line : String) (kind : Kind) :
    Names line kind ↔ (trim line.toList).map Char.toLower = kind.label.toList := by
  constructor
  . rintro ⟨before, word, after, hline, hbefore, hafter, hlabel⟩
    have hword : trim word = word := by
      apply Text.trim_of_not_blank
      intro c hc
      apply Text.isBlank_eq_false_of_toLower
      have hmem : c.toLower ∈ kind.label.toList := hlabel ▸ List.mem_map_of_mem hc
      exact (isPlain_label kind _ hmem).1
    rw [hline, Text.trim_append_append hbefore hafter, hword, hlabel]
  . intro hlabel
    obtain ⟨before, after, hline, hbefore, hafter⟩ := Text.exists_eq_append_trim line.toList
    exact ⟨before, trim line.toList, after, hline, hbefore, hafter, hlabel⟩

theorem not_isPassed_of_names {line : String} {kind : Kind} (h : Names line kind) :
    ¬IsPassed line := by
  obtain ⟨c, hc, hcomment⟩ := head?_label kind
  rw [names_iff] at h
  rw [← h, List.head?_map] at hc
  rw [isPassed_iff]
  rintro (hnil | hhead)
  . rw [hnil] at hc
    contradiction
  . rw [hhead] at hc
    exact hcomment (Option.some.inj hc).symm

instance (line : String) : Decidable (IsPassed line) := decidable_of_iff _ (isPassed_iff line).symm

theorem readKind?_eq (line : String) :
    readKind? line =
      if IsPassed line then none
      else some (match Kind.ofLabel? (Text.strip line) with
        | some kind => .ok kind
        | none => .error (.gesture (Text.strip line))) := by
  have hskipped : ((Text.strip line).isEmpty || (Text.strip line).startsWith "#") = true ↔
      IsPassed line := by
    have hhash : "#".toList = ['#'] := rfl
    rw [isPassed_iff, Bool.or_eq_true, String.isEmpty_iff, String.startsWith_string_iff, hhash]
    unfold Text.strip
    rw [String.toList_ofList]
    cases trim line.toList with
    | nil => simp
    | cons c cs =>
      rw [List.cons_prefix_cons, List.head?_cons, Option.some_inj, String.ofList_eq_empty_iff]
      simp [eq_comm (a := '#')]
  unfold readKind?
  simp only [hskipped]
  split
  . rfl
  . cases Kind.ofLabel? (Text.strip line) <;> rfl

theorem label_eq_fold_iff (line : String) (kind : Kind) :
    kind.label = Text.fold (Text.strip line) ↔ Names line kind := by
  rw [names_iff, eq_comm, ← String.toList_inj]
  unfold Text.fold Text.strip
  rw [String.toList_ofList, String.toList_ofList, Text.trim_trim]

theorem readKind?_of_names {line : String} {kind : Kind} (h : Names line kind)
    (hlabelled : kind ∈ Kind.labelled) : readKind? line = some (.ok kind) := by
  have hkind : Kind.ofLabel? (Text.strip line) = some kind :=
    Kind.ofLabel?_eq_some_iff.2 ⟨hlabelled, (label_eq_fold_iff line kind).2 h⟩
  rw [readKind?_eq, if_neg (not_isPassed_of_names h), hkind]

theorem readKind?_cases {line : String} (h : ∀ fault, readKind? line ≠ some (.error fault)) :
    (IsPassed line ∧ readKind? line = none) ∨
      ∃ kind, kind ∈ Kind.labelled ∧ Names line kind ∧ readKind? line = some (.ok kind) := by
  by_cases hpassed : IsPassed line
  . apply Or.inl
    rw [readKind?_eq, if_pos hpassed]
    exact ⟨hpassed, rfl⟩
  . apply Or.inr
    cases hkind : Kind.ofLabel? (Text.strip line) with
    | none =>
      apply absurd _ (h (.gesture (Text.strip line)))
      rw [readKind?_eq, if_neg hpassed, hkind]
    | some kind =>
      obtain ⟨hlabelled, hlabel⟩ := Kind.ofLabel?_eq_some_iff.1 hkind
      have hnames := (label_eq_fold_iff line kind).1 hlabel
      exact ⟨kind, hlabelled, hnames, readKind?_of_names hnames hlabelled⟩

theorem lists_cons_iff {kinds : List Kind} {line : String} {lines : List String} :
    Lists kinds (line :: lines) ↔
      (IsPassed line ∧ Lists kinds lines) ∨
        ∃ kind rest, kinds = kind :: rest ∧ Names line kind ∧ Lists rest lines := by
  constructor
  . intro h
    cases h with
    | passed hline hlines => exact Or.inl ⟨hline, hlines⟩
    | label hline hlines => exact Or.inr ⟨_, _, rfl, hline, hlines⟩
  . rintro (⟨hline, hlines⟩ | ⟨kind, rest, rfl, hline, hlines⟩)
    . exact .passed hline hlines
    . exact .label hline hlines

theorem readLines_eq_ok_iff (number : Nat) (lines : List String) (kinds : List Kind) :
    readLines readKind? number (lines.map some) = .ok kinds ↔
      (∀ kind ∈ kinds, kind ∈ Kind.labelled) ∧ Lists kinds lines := by
  induction lines generalizing number kinds with
  | nil =>
    rw [List.map_nil, readLines]
    constructor
    . intro h
      obtain rfl := Except.ok.inj h
      exact ⟨List.forall_mem_nil _, .nil⟩
    . rintro ⟨-, hlists⟩
      cases hlists
      rfl
  | cons line lines ih =>
    rw [List.map_cons, readLines, lists_cons_iff]
    constructor
    . intro h
      have hfault : ∀ fault, readKind? line ≠ some (.error fault) := by
        intro fault hread
        rw [hread] at h
        contradiction
      rcases readKind?_cases hfault with ⟨hpassed, hread⟩ | ⟨kind, hlabelled, hnames, hread⟩
      . rw [hread] at h
        obtain ⟨hall, hlists⟩ := (ih (number + 1) kinds).1 h
        exact ⟨hall, Or.inl ⟨hpassed, hlists⟩⟩
      . rw [hread] at h
        dsimp only at h
        cases hrest : readLines readKind? (number + 1) (lines.map some) with
        | error failure =>
          rw [hrest] at h
          contradiction
        | ok rest =>
          rw [hrest] at h
          obtain rfl := Except.ok.inj h
          obtain ⟨hall, hlists⟩ := (ih (number + 1) rest).1 hrest
          exact ⟨List.forall_mem_cons.2 ⟨hlabelled, hall⟩,
            Or.inr ⟨kind, rest, rfl, hnames, hlists⟩⟩
    . rintro ⟨hlabelled, ⟨hpassed, hlists⟩ | ⟨kind, rest, rfl, hnames, hlists⟩⟩
      . rw [readKind?_eq, if_pos hpassed]
        exact (ih (number + 1) kinds).2 ⟨hlabelled, hlists⟩
      . rw [List.forall_mem_cons] at hlabelled
        rw [readKind?_of_names hnames hlabelled.1]
        dsimp only
        rw [(ih (number + 1) rest).2 ⟨hlabelled.2, hlists⟩]
        rfl

/--
A carriage return at the end of a line is of no account.
-/
theorem lists_chomp_iff {kinds : List Kind} {line : List Char} {lines : List String} :
    Lists kinds (String.ofList (Text.chomp '\r' line) :: lines) ↔
      Lists kinds (String.ofList line :: lines) := by
  simp only [lists_cons_iff, isPassed_iff, names_iff, String.toList_ofList, Text.trim_chomp]

theorem lists_linesOf_iff {lines : List String} (h : ∀ line ∈ lines, '\n' ∉ line.toList)
    (kinds : List Kind) :
    Lists kinds (Text.linesOf (textOf lines)) ↔ Lists kinds lines := by
  have hfeed : "\n".toList = ['\n'] := rfl
  unfold Text.linesOf textOf
  rw [String.toList_intercalate, hfeed]
  induction lines generalizing kinds with
  | nil =>
    unfold Text.lines
    rfl
  | cons line lines ih =>
    rw [List.forall_mem_cons] at h
    cases lines with
    | nil =>
      rw [List.map_singleton, List.intercalate_singleton]
      by_cases hempty : line.toList = []
      . have hpassed : IsPassed line := (isPassed_iff line).2 (Or.inl (by rw [hempty]; rfl))
        have hnone : ∀ kind, ¬Names line kind :=
          fun _ hnames => not_isPassed_of_names hnames hpassed
        rw [hempty, lists_cons_iff]
        unfold Text.lines
        simp [hpassed, hnone]
      . rw [Text.lines_of_not_mem hempty h.1, List.map_singleton, String.ofList_toList]
    | cons next lines =>
      rw [List.map_cons, List.map_cons, List.intercalate_cons_cons, List.append_assoc,
        List.singleton_append, ← List.map_cons, Text.lines_append_cons h.1, List.map_cons,
        lists_chomp_iff, String.ofList_toList, lists_cons_iff, @lists_cons_iff _ _ (next :: lines)]
      simp only [ih h.2]

/--
What is read from a text is what its lines list, if the labels tell it.
-/
theorem readKindBytes_eq_ok_iff {lines : List String} (h : ∀ line ∈ lines, '\n' ∉ line.toList)
    {kinds : List Kind} (hlabelled : ∀ kind ∈ kinds, kind ∈ Kind.labelled) :
    readKindBytes (textOf lines).toUTF8.toList = .ok kinds ↔ Lists kinds lines := by
  unfold readKindBytes
  rw [Text.linesOfBytes_toUTF8, readLines_eq_ok_iff, lists_linesOf_iff h]
  exact and_iff_right hlabelled

theorem toLower_label (kind : Kind) : kind.label.toList.map Char.toLower = kind.label.toList := by
  cases kind with
  | click => rfl
  | hold => rfl
  | drag axis => cases axis <;> rfl
  | dragEnd axis swipe => rcases swipe with _ | _ | _ <;> cases axis <;> rfl

theorem names_label (kind : Kind) : Names kind.label kind := by
  refine ⟨[], kind.label.toList, [], ?_, List.forall_mem_nil _, List.forall_mem_nil _,
    toLower_label kind⟩
  rw [List.nil_append, List.append_nil]

theorem lists_map_label (kinds : List Kind) : Lists kinds (kinds.map Kind.label) := by
  induction kinds with
  | nil => exact .nil
  | cons kind kinds ih => exact .label (names_label kind) ih

theorem isLine_label (kind : Kind) : IsLine kind.label :=
  isLine_of_not_blank fun c hc => (isPlain_label kind c hc).1

end TouchPanel.Trace
