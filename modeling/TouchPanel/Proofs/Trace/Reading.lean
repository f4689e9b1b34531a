import Mathlib.Data.List.Forall2
import TouchPanel.Proofs.Trace.Rows

/-!
This module contains what is read from a text (`reads_rowsOf`): one sample from each row, in order,
or the first fault of the first row that has any, with the number of its line. Lines that are no
rows have no part in it, other than being counted.
-/

namespace TouchPanel.Trace

open Text (trim IsTerminated)

def columnsOf (line : String) : List (List Char) := Text.fields ',' (trim line.toList)

structure IsRow (line : String) : Prop where
  filled : trim line.toList ≠ []
  comment : (trim line.toList).head? ≠ some '#'
  header : trim line.toList ≠ sampleHeader.toList
  tag : (columnsOf line).head?.map trim = some sampleTag.toList

theorem isRow_iff (line : String) :
    IsRow line ↔
      trim line.toList ≠ [] ∧ (trim line.toList).head? ≠ some '#' ∧
        trim line.toList ≠ sampleHeader.toList ∧
        (columnsOf line).head?.map trim = some sampleTag.toList :=
  ⟨fun h => ⟨h.filled, h.comment, h.header, h.tag⟩,
    fun ⟨hfilled, hcomment, hheader, htag⟩ => ⟨hfilled, hcomment, hheader, htag⟩⟩

instance (line : String) : Decidable (IsRow line) := decidable_of_iff _ (isRow_iff line).symm

def rowsOf (text : String) : List String := (Text.linesOf text).filter (IsRow ·)

section Columns

def readWord {α : Type} (ofLabel? : String → Option α) (fault : String → RowFault)
    (column : List Char) : Except RowFault α :=
  match ofLabel? (String.ofList column) with
  | some a => .ok a
  | none => .error (fault (String.ofList column))

def readTime : List Char → Except RowFault Nat := readColumn "ms" (Text.readNat (UInt64.size - 1))

def readPhase : List Char → Except RowFault Phase := readWord Phase.ofLabel? .phase

def readId : List Char → Except RowFault Nat :=
  readColumn "touch_id" (Text.readNat (UInt32.size - 1))

def readX : List Char → Except RowFault Float32 := readColumn "x" Text.readDecimal

def readY : List Char → Except RowFault Float32 := readColumn "y" Text.readDecimal

def readPressure : List Char → Except RowFault Float32 := readColumn "pressure" Text.readDecimal

def readOrigin : List Char → Except RowFault Origin := readWord Origin.ofLabel? .origin

def IsReadable {α : Type} (read : List Char → Except RowFault α) (column : Option (List Char)) :
    Prop :=
  ∀ fault, column.map read ≠ some (.error fault)

/--
There are columns enough, and each of them can be read, the phase apart.
-/
structure HasColumns (columns : List (List Char)) : Prop where
  count : 6 ≤ columns.length
  time : IsReadable readTime columns[1]?
  id : IsReadable readId columns[3]?
  x : IsReadable readX columns[4]?
  y : IsReadable readY columns[5]?
  pressure : IsReadable readPressure columns[6]?
  origin : IsReadable readOrigin columns[7]?

structure IsWellFormed (columns : List (List Char)) : Prop extends HasColumns columns where
  phase : IsReadable readPhase columns[2]?

/--
The columns hold the numbers and words of a sample. Coordinates and pressure are brought between 0
and 1. Pressure and origin may be missing: the pressure is full then, and the origin is touch.
-/
structure Tells (columns : List (List Char)) (sample : Sample) : Prop where
  time : columns[1]?.map readTime = some (.ok sample.time.toNat)
  phase : columns[2]?.map readPhase = some (.ok sample.phase)
  id : columns[3]?.map readId = some (.ok sample.id.toNat)
  x : ∃ x, columns[4]?.map readX = some (.ok x) ∧ sample.x = Binary.clampUnit x
  y : ∃ y, columns[5]?.map readY = some (.ok y) ∧ sample.y = Binary.clampUnit y
  pressure : ∃ pressure, (columns[6]?.map readPressure).getD (.ok 1) = .ok pressure ∧
    sample.pressure = Binary.clampUnit pressure
  origin : (columns[7]?.map readOrigin).getD (.ok .touch) = .ok sample.origin

def faultAt {α : Type} (read : List Char → Except RowFault α) (column : Option (List Char)) :
    List RowFault :=
  match column.map read with
  | some (.error fault) => [fault]
  | _ => []

def faultsOf (columns : List (List Char)) : List RowFault :=
  if columns.length < 6 then
    [.tooFewColumns]
  else
    [faultAt readTime columns[1]?, faultAt readPhase columns[2]?, faultAt readId columns[3]?,
      faultAt readX columns[4]?, faultAt readY columns[5]?, faultAt readPressure columns[6]?,
      faultAt readOrigin columns[7]?].flatten

variable {columns : List (List Char)}

theorem faultAt_eq_nil_iff {α : Type} (read : List Char → Except RowFault α)
    (column : Option (List Char)) : faultAt read column = [] ↔ IsReadable read column := by
  unfold faultAt IsReadable
  cases column.map read with
  | none => simp
  | some outcome => cases outcome <;> simp

instance {α : Type} (read : List Char → Except RowFault α) (column : Option (List Char)) :
    Decidable (IsReadable read column) :=
  decidable_of_iff _ (faultAt_eq_nil_iff read column)

theorem faultsOf_eq_nil_iff : faultsOf columns = [] ↔ IsWellFormed columns := by
  unfold faultsOf
  split
  . next hcount =>
    constructor
    . nofun
    . intro h
      have := h.count
      omega
  . next hcount =>
    simp only [List.flatten_eq_nil_iff, List.forall_mem_cons, faultAt_eq_nil_iff]
    constructor
    . rintro ⟨htime, hphase, hid, hx, hy, hpressure, horigin, -⟩
      exact ⟨⟨Nat.le_of_not_lt hcount, htime, hid, hx, hy, hpressure, horigin⟩, hphase⟩
    . rintro ⟨⟨-, htime, hid, hx, hy, hpressure, horigin⟩, hphase⟩
      exact ⟨htime, hphase, hid, hx, hy, hpressure, horigin, nofun⟩

instance (columns : List (List Char)) : Decidable (IsWellFormed columns) :=
  decidable_of_iff _ faultsOf_eq_nil_iff

theorem readColumns_eq (ms kind touchId x y : List Char) (more : List (List Char)) :
    readColumns (ms :: kind :: touchId :: x :: y :: more) = do
      let time ← readTime ms
      let phase ← readPhase kind
      let id ← readId touchId
      let x ← readX x
      let y ← readY y
      let pressure ← (more[0]?.map readPressure).getD (.ok 1)
      let origin ← (more[1]?.map readOrigin).getD (.ok .touch)
      return (Sample.clamped phase (UInt32.ofNat id) x y (UInt64.ofNat time) origin).withPressure
        pressure := by
  unfold readColumns
  refine bind_congr fun time => ?_
  unfold readPhase readOrigin readWord
  cases Phase.ofLabel? (String.ofList kind) with
  | none => rfl
  | some phase =>
    refine bind_congr fun id => bind_congr fun x => bind_congr fun y => ?_
    rcases more with _ | ⟨pressure, _ | ⟨origin, rest⟩⟩
    . rfl
    . rfl
    . refine bind_congr fun pressure => ?_
      dsimp only [List.getElem?_cons_succ, List.getElem?_cons_zero, Option.map_some,
        Option.getD_some]
      cases Origin.ofLabel? (String.ofList origin) <;> rfl

/--
What comes of reading goes with the faults that there are: without any, something good is read, and
otherwise reading stops at the first.
-/
inductive Judges {α : Type} (good : α → Prop) : Except RowFault α → List RowFault → Prop where
  | ok (a : α) (h : good a) : Judges good (.ok a) []
  | error (fault : RowFault) (rest : List RowFault) : Judges good (.error fault) (fault :: rest)

theorem judges_bind {α β : Type} {good : α → Prop} {better : β → Prop}
    {outcome : Except RowFault α} {next : α → Except RowFault β} {faults more : List RowFault}
    (h : Judges good outcome faults) (hnext : ∀ a, good a → Judges better (next a) more) :
    Judges better (outcome >>= next) (faults ++ more) := by
  cases h with
  | ok a ha => exact hnext a ha
  | error fault rest => exact .error fault (rest ++ more)

theorem judges_faultAt {α : Type} (read : List Char → Except RowFault α)
    (column : Option (List Char)) (missing : α) :
    Judges (fun a => (column.map read).getD (.ok missing) = .ok a)
      ((column.map read).getD (.ok missing)) (faultAt read column) := by
  unfold faultAt
  cases column.map read with
  | none => exact .ok missing rfl
  | some outcome =>
    cases outcome with
    | ok a => exact .ok a rfl
    | error fault => exact .error fault []

theorem judges_faultAt_some {α : Type} (read : List Char → Except RowFault α)
    (column : List Char) :
    Judges (fun a => read column = .ok a) (read column) (faultAt read (some column)) := by
  unfold faultAt
  rw [Option.map_some]
  cases read column with
  | ok a => exact .ok a rfl
  | error fault => exact .error fault []

theorem le_of_readColumn {name : String} {limit n : Nat} {column : List Char}
    (h : readColumn name (Text.readNat limit) column = .ok n) : n ≤ limit := by
  unfold readColumn at h
  split at h
  . next hread =>
    obtain rfl := Except.ok.inj h
    exact Text.le_of_readNat hread
  . contradiction

theorem toNat_of_readTime {column : List Char} {time : Nat} (h : readTime column = .ok time) :
    (UInt64.ofNat time).toNat = time :=
  UInt64.toNat_ofNat_of_lt' (Nat.lt_of_le_sub_one (by decide) (le_of_readColumn h))

theorem toNat_of_readId {column : List Char} {id : Nat} (h : readId column = .ok id) :
    (UInt32.ofNat id).toNat = id :=
  UInt32.toNat_ofNat_of_lt' (Nat.lt_of_le_sub_one (by decide) (le_of_readColumn h))

theorem judges_readColumns (hcount : 6 ≤ columns.length) :
    Judges (Tells columns) (readColumns columns.tail) (faultsOf columns) := by
  match columns, hcount with
  | tag :: ms :: kind :: touchId :: x :: y :: more, hcount =>
    unfold faultsOf
    rw [if_neg (Nat.not_lt.2 hcount), List.tail_cons, readColumns_eq]
    refine judges_bind (judges_faultAt_some readTime ms) fun time htime => ?_
    refine judges_bind (judges_faultAt_some readPhase kind) fun phase hphase => ?_
    refine judges_bind (judges_faultAt_some readId touchId) fun id hid => ?_
    refine judges_bind (judges_faultAt_some readX x) fun x hx => ?_
    refine judges_bind (judges_faultAt_some readY y) fun y hy => ?_
    refine judges_bind (judges_faultAt readPressure more[0]? 1) fun pressure hpressure => ?_
    refine judges_bind (judges_faultAt readOrigin more[1]? .touch) fun origin horigin => ?_
    constructor
    constructor
    . exact congrArg some (htime.trans (congrArg Except.ok (toNat_of_readTime htime).symm))
    . exact congrArg some hphase
    . exact congrArg some (hid.trans (congrArg Except.ok (toNat_of_readId hid).symm))
    . exact ⟨x, congrArg some hx, rfl⟩
    . exact ⟨y, congrArg some hy, rfl⟩
    . exact ⟨pressure, hpressure, rfl⟩
    . exact horigin

end Columns

theorem ofList_eq_iff {cs : List Char} {s : String} : String.ofList cs = s ↔ cs = s.toList :=
  ⟨fun h => by rw [← h, String.toList_ofList], fun h => by rw [h, String.ofList_toList]⟩

theorem readSample?_eq (line : String) :
    readSample? line =
      if IsRow line then some (readColumns (columnsOf line).tail) else none := by
  have hskipped : ((trim line.toList).isEmpty || (trim line.toList).head? == some '#' ||
      String.ofList (trim line.toList) == sampleHeader) = true ↔
      ¬(trim line.toList ≠ [] ∧ (trim line.toList).head? ≠ some '#' ∧
        trim line.toList ≠ sampleHeader.toList) := by
    rw [Bool.or_eq_true, Bool.or_eq_true, beq_iff_eq, beq_iff_eq, ofList_eq_iff,
      List.isEmpty_iff]
    tauto
  unfold readSample?
  dsimp only
  split
  . next hskip =>
    rw [if_neg]
    intro hrow
    exact hskipped.1 hskip ⟨hrow.filled, hrow.comment, hrow.header⟩
  . next hkept =>
    rw [hskipped, not_not] at hkept
    obtain ⟨hfilled, hcomment, hheader⟩ := hkept
    cases hcolumns : Text.fields ',' (trim line.toList) with
    | nil => exact absurd hcolumns (Text.fields_ne_nil _ _)
    | cons tag columns =>
      have hrow : IsRow line ↔ trim tag = sampleTag.toList := by
        rw [isRow_iff]
        unfold columnsOf
        rw [hcolumns]
        simp [hfilled, hcomment, hheader]
      unfold columnsOf
      rw [hcolumns]
      dsimp only [List.tail_cons]
      simp only [hrow, beq_iff_eq, ofList_eq_iff]

theorem readLines_append_cons {α : Type} {read? : String → Option (Except RowFault α)}
    {before : List String} (hbefore : ∀ line ∈ before, ∀ fault, read? line ≠ some (.error fault))
    {line : String} {fault : RowFault} (h : read? line = some (.error fault))
    (after : List String) (number : Nat) :
    readLines read? number ((before ++ line :: after).map some) =
      .error (.row (before.length + number) fault) := by
  induction before generalizing number with
  | nil =>
    rw [List.nil_append, List.map_cons, readLines, h, List.length_nil, Nat.zero_add]
  | cons first before ih =>
    obtain ⟨hfirst, hrest⟩ := List.forall_mem_cons.1 hbefore
    rw [List.cons_append, List.map_cons, readLines, ih hrest, List.length_cons,
      Nat.add_right_comm]
    cases hread : read? first with
    | none => rfl
    | some outcome =>
      cases outcome with
      | error fault => exact absurd hread (hfirst fault)
      | ok a => rfl

theorem readSampleBytes_toUTF8 (text : String) :
    readSampleBytes text.toUTF8.toList =
      readLines readSample? 1 ((Text.linesOf text).map some) := by
  unfold readSampleBytes
  rw [Text.linesOfBytes_toUTF8]

theorem rowsOf_append {text : String} (h : IsTerminated text) (more : String) :
    rowsOf (text ++ more) = rowsOf text ++ rowsOf more := by
  unfold rowsOf
  rw [Text.linesOf_append h, List.filter_append]

def sampleOf? (row : String) : Option Sample :=
  (readColumns (columnsOf row).tail).toOption

theorem readColumns_of_isWellFormed {columns : List (List Char)} (h : IsWellFormed columns) :
    ∃ sample, readColumns columns.tail = .ok sample ∧ Tells columns sample := by
  have hjudges := judges_readColumns h.count
  rw [faultsOf_eq_nil_iff.2 h] at hjudges
  generalize readColumns columns.tail = outcome at hjudges ⊢
  cases hjudges with
  | ok sample htells => exact ⟨sample, rfl, htells⟩

theorem readColumns_of_not_isWellFormed {columns : List (List Char)} (h : ¬IsWellFormed columns) :
    ∃ fault, readColumns columns.tail = .error fault ∧ (faultsOf columns).head? = some fault := by
  by_cases hcount : 6 ≤ columns.length
  . have hjudges := judges_readColumns hcount
    rw [← faultsOf_eq_nil_iff] at h
    generalize readColumns columns.tail = outcome at hjudges ⊢
    generalize faultsOf columns = faults at hjudges h ⊢
    cases hjudges with
    | ok => contradiction
    | error fault rest => exact ⟨fault, rfl, rfl⟩
  . refine ⟨.tooFewColumns, ?_, ?_⟩
    . have hlength := columns.length_tail
      unfold readColumns
      split
      . next htail =>
        rw [htail, List.length_cons, List.length_cons, List.length_cons, List.length_cons,
          List.length_cons] at hlength
        omega
      . rfl
    . unfold faultsOf
      rw [if_pos (Nat.lt_of_not_le hcount)]
      rfl

theorem readSample?_ne_error {line : String} (h : IsRow line → IsWellFormed (columnsOf line))
    (fault : RowFault) : readSample? line ≠ some (.error fault) := by
  rw [readSample?_eq]
  split
  . next hrow =>
    obtain ⟨sample, hread, -⟩ := readColumns_of_isWellFormed (h hrow)
    rw [hread]
    simp
  . simp

theorem readSampleBytes_of_isWellFormed {text : String}
    (h : ∀ row ∈ rowsOf text, IsWellFormed (columnsOf row)) :
    readSampleBytes text.toUTF8.toList = .ok ((rowsOf text).filterMap sampleOf?) := by
  have hlines : ∀ line ∈ Text.linesOf text, ∀ fault, readSample? line ≠ some (.error fault) := by
    intro line hline
    apply readSample?_ne_error
    intro hrow
    exact h line (List.mem_filter.2 ⟨hline, decide_eq_true hrow⟩)
  rw [readSampleBytes_toUTF8, Journal.readLines_of_no_fault hlines]
  unfold rowsOf sampleOf?
  rw [List.filterMap_filter]
  congr 2
  funext line
  rw [readSample?_eq]
  by_cases hrow : IsRow line <;> simp [hrow]

theorem forall₂_tells {rows : List String} (h : ∀ row ∈ rows, IsWellFormed (columnsOf row)) :
    List.Forall₂ (fun row sample => Tells (columnsOf row) sample) rows
      (rows.filterMap sampleOf?) := by
  induction rows with
  | nil => exact .nil
  | cons row rows ih =>
    obtain ⟨hrow, hrows⟩ := List.forall_mem_cons.1 h
    obtain ⟨sample, hread, htells⟩ := readColumns_of_isWellFormed hrow
    have hsample : sampleOf? row = some sample := by
      unfold sampleOf?
      rw [hread]
      rfl
    rw [List.filterMap_cons_some hsample]
    exact .cons htells (ih hrows)

theorem filter_isRow_eq_nil {lines : List String} (h : ∀ line ∈ lines, ¬IsRow line) :
    lines.filter (IsRow ·) = [] := by
  rw [List.filter_eq_nil_iff]
  intro line hline
  rw [decide_eq_true_iff]
  exact h line hline

theorem exists_first_of_not_good {text : String}
    (h : ¬∀ row ∈ rowsOf text, IsWellFormed (columnsOf row)) :
    ∃ before row after, Text.linesOf text = before ++ row :: after ∧
      (∀ line ∈ before, IsRow line → IsWellFormed (columnsOf line)) ∧
      IsRow row ∧ ¬IsWellFormed (columnsOf row) := by
  have hfound : ((Text.linesOf text).find? fun line =>
      decide (IsRow line ∧ ¬IsWellFormed (columnsOf line))).isSome := by
    unfold rowsOf at h
    simpa using h
  obtain ⟨row, hrow⟩ := Option.isSome_iff_exists.1 hfound
  obtain ⟨hfault, before, after, hlines, hbefore⟩ := List.find?_eq_some_iff_append.1 hrow
  obtain ⟨hisRow, hnot⟩ := of_decide_eq_true hfault
  refine ⟨before, row, after, hlines, ?_, hisRow, hnot⟩
  intro line hline hlineRow
  by_contra hline'
  have := hbefore line hline
  simp_all

/--
If every row of a text is well-formed, one sample is read from each row, in order. A text that ends
with a line can be read apart from what follows it, and lines that are no rows may come or go.
Otherwise reading stops at the first row that is not well-formed, with the number of its line among
all lines and the first fault that its own columns have.
-/
theorem reads_rowsOf (text : String) :
    let read (text : String) := readSampleBytes text.toUTF8.toList
    let IsGood (text : String) := ∀ row ∈ rowsOf text, IsWellFormed (columnsOf row)
    (IsGood text → ∃ samples, read text = .ok samples ∧
      List.Forall₂ (fun row sample => Tells (columnsOf row) sample) (rowsOf text) samples ∧
      (∀ more, IsTerminated text → IsGood more → ∃ further, read more = .ok further ∧
        read (text ++ more) = .ok (samples ++ further)) ∧
      ∀ other before gone come after, Text.linesOf text = before ++ gone ++ after →
        Text.linesOf other = before ++ come ++ after →
        (∀ line ∈ gone ++ come, ¬IsRow line) → read other = .ok samples) ∧
    (¬IsGood text → ∃ before row after fault,
      Text.linesOf text = before ++ row :: after ∧
      (∀ line ∈ before, IsRow line → IsWellFormed (columnsOf line)) ∧
      IsRow row ∧ ¬IsWellFormed (columnsOf row) ∧
      (faultsOf (columnsOf row)).head? = some fault ∧
      read text = .error (.row (before.length + 1) fault)) := by
  intro read IsGood
  constructor
  . intro hgood
    refine ⟨(rowsOf text).filterMap sampleOf?, readSampleBytes_of_isWellFormed hgood,
      forall₂_tells hgood, ?_, ?_⟩
    . intro more hterminated hmore
      refine ⟨_, readSampleBytes_of_isWellFormed hmore, ?_⟩
      have hrows := rowsOf_append hterminated more
      rw [← List.filterMap_append, ← hrows]
      apply readSampleBytes_of_isWellFormed
      rw [hrows, List.forall_mem_append]
      exact ⟨hgood, hmore⟩
    . intro other before gone come after htext hother hlines
      obtain ⟨hgone, hcome⟩ := List.forall_mem_append.1 hlines
      have hrows : rowsOf other = rowsOf text := by
        unfold rowsOf
        rw [htext, hother]
        simp only [List.filter_append, filter_isRow_eq_nil hgone, filter_isRow_eq_nil hcome]
      rw [← hrows]
      apply readSampleBytes_of_isWellFormed
      rw [hrows]
      exact hgood
  . intro hbad
    obtain ⟨before, row, after, hlines, hbefore, hrow, hfault⟩ := exists_first_of_not_good hbad
    obtain ⟨fault, hread, hfirst⟩ := readColumns_of_not_isWellFormed hfault
    have hsample : readSample? row = some (.error fault) := by
      rw [readSample?_eq, if_pos hrow, hread]
    refine ⟨before, row, after, fault, hlines, hbefore, hrow, hfault, hfirst, ?_⟩
    have hclean : ∀ line ∈ before, ∀ fault, readSample? line ≠ some (.error fault) :=
      fun line hline => readSample?_ne_error (hbefore line hline)
    change readSampleBytes _ = _
    rw [readSampleBytes_toUTF8, hlines, readLines_append_cons hclean hsample]

/--
A row without pressure and origin behind a comment, and a row of which the time is no number.
-/
theorem reads_rowsOf_counted :
    let read (text : String) := readSampleBytes text.toUTF8.toList
    let good := String.join (["# note", "pointer_trace,5,down,1,0,0.5"].map (· ++ "\n"))
    let bad := String.join (["# note", "pointer_trace,5,down,1,0,0", "pointer_trace,x,up,1,0,0"].map
      (· ++ "\n"))
    (IsTerminated good ∧ ∀ row ∈ rowsOf good, IsWellFormed (columnsOf row)) ∧
      (∃ samples, samples.length = 1 ∧ read good = .ok samples ∧
        read (good ++ good) = .ok (samples ++ samples)) ∧
      (¬∀ row ∈ rowsOf bad, IsWellFormed (columnsOf row)) ∧
      read bad = .error (.row 3 (.number "ms" "x" .invalidDigit)) := by
  intro read good bad
  have hlines : Text.linesOf good = ["# note", "pointer_trace,5,down,1,0,0.5"] :=
    Text.linesOf_join _ (by decide)
  have hlines' : Text.linesOf bad =
      ["# note", "pointer_trace,5,down,1,0,0", "pointer_trace,x,up,1,0,0"] :=
    Text.linesOf_join _ (by decide)
  have hrows : rowsOf good = ["pointer_trace,5,down,1,0,0.5"] := by
    unfold rowsOf
    rw [hlines]
    decide
  have hrows' : rowsOf bad = ["pointer_trace,5,down,1,0,0", "pointer_trace,x,up,1,0,0"] := by
    unfold rowsOf
    rw [hlines']
    decide
  have hterminated : IsTerminated good := Text.isTerminated_join _
  have hgood : ∀ row ∈ rowsOf good, IsWellFormed (columnsOf row) := by
    rw [hrows]
    decide
  have hbad : ¬∀ row ∈ rowsOf bad, IsWellFormed (columnsOf row) := by
    rw [hrows']
    decide
  refine ⟨⟨hterminated, hgood⟩, ?_, hbad, ?_⟩
  . obtain ⟨samples, hread, htells, happend, -⟩ := (reads_rowsOf good).1 hgood
    obtain ⟨further, hfurther, hboth⟩ := happend good hterminated hgood
    obtain rfl : samples = further := Except.ok.inj (hread.symm.trans hfurther)
    refine ⟨samples, ?_, hread, hboth⟩
    rw [← htells.length_eq, hrows]
    rfl
  . obtain ⟨before, row, after, fault, hsplit, hbefore, hrow, hfault, hfirst, hread⟩ :=
      (reads_rowsOf bad).2 hbad
    rw [hlines'] at hsplit
    -- The comment is no row and the row behind it is well-formed, so it is the third line.
    rcases before with _ | ⟨first, _ | ⟨second, _ | ⟨third, rest⟩⟩⟩
    . obtain ⟨rfl, -⟩ := List.cons.inj hsplit
      exact absurd hrow (by decide)
    . obtain ⟨-, htail⟩ := List.cons.inj hsplit
      obtain ⟨rfl, -⟩ := List.cons.inj htail
      exact absurd (by decide) hfault
    . obtain ⟨-, htail⟩ := List.cons.inj hsplit
      obtain ⟨-, htail⟩ := List.cons.inj htail
      obtain ⟨rfl, -⟩ := List.cons.inj htail
      obtain rfl : fault = .number "ms" "x" .invalidDigit :=
        Option.some.inj (hfirst.symm.trans (by decide))
      exact hread
    . simp at hsplit

/--
A row can have all its numbers and still be refused, for the word that names its phase.
-/
theorem readSampleBytes_unknown_phase :
    let text := String.join (["pointer_trace,0,press,1,0,0"].map (· ++ "\n"))
    (rowsOf text = ["pointer_trace,0,press,1,0,0"] ∧
      ∀ row ∈ rowsOf text, HasColumns (columnsOf row)) ∧
      readSampleBytes text.toUTF8.toList = .error (.row 1 (.phase "press")) := by
  intro text
  have hlines : Text.linesOf text = [] ++ "pointer_trace,0,press,1,0,0" :: [] :=
    Text.linesOf_join _ (by decide)
  have hrows : rowsOf text = ["pointer_trace,0,press,1,0,0"] := by
    unfold rowsOf
    rw [hlines]
    decide
  refine ⟨⟨hrows, ?_⟩, ?_⟩
  . rw [hrows, List.forall_mem_singleton]
    constructor <;> decide
  . have hsample : readSample? "pointer_trace,0,press,1,0,0" = some (.error (.phase "press")) := by
      decide
    rw [readSampleBytes_toUTF8, hlines, readLines_append_cons (List.forall_mem_nil _) hsample]
    rfl

end TouchPanel.Trace
