import TouchPanel.Proofs.Text.Decimal
import TouchPanel.Proofs.Text.Lines
import TouchPanel.Trace.Journal

/-!
This module contains the samples that are read back from the text of a journal (`Sample.reread`).
Main statement: `Journal.readSampleBytes_write`. All that a journal has kept is read back in order,
and its numbers come to what their decimals say.
-/

namespace TouchPanel

open Text (fixed isBlank trim)

/--
The sample that is read back: as exact as its decimals, and with its numbers between 0 and 1.
-/
def Sample.reread (sample : Sample) : Sample :=
  { sample with
    x := Binary.clampUnit (Text.reread 6 sample.x)
    y := Binary.clampUnit (Text.reread 6 sample.y)
    pressure := Binary.clampUnit (Text.reread 4 sample.pressure) }

theorem Sample.reread_eq_self_iff (sample : Sample) :
    sample.reread = sample ↔
      Binary.clampUnit (Text.reread 6 sample.x) = sample.x ∧
      Binary.clampUnit (Text.reread 6 sample.y) = sample.y ∧
      Binary.clampUnit (Text.reread 4 sample.pressure) = sample.pressure := by
  obtain ⟨phase, id, x, y, pressure, time, origin⟩ := sample
  unfold reread
  simp only [mk.injEq, true_and, and_true]

namespace Trace

def IsPlain (column : List Char) : Prop :=
  ∀ c ∈ column, isBlank c = false ∧ c ≠ ','

instance (column : List Char) : Decidable (IsPlain column) :=
  List.decidableBAll (fun c => isBlank c = false ∧ c ≠ ',') column

theorem isPlain_append {column more : List Char} (h : IsPlain column) (hmore : IsPlain more) :
    IsPlain (column ++ more) := by
  intro c hc
  rcases List.mem_append.1 hc with hc | hc
  . exact h c hc
  . exact hmore c hc

theorem IsPlain.trim_eq {column : List Char} (h : IsPlain column) : trim column = column :=
  Text.trim_of_not_blank fun c hc => (h c hc).1

theorem isPlain_of_isDigit {column : List Char} (h : ∀ c ∈ column, c.isDigit) :
    IsPlain column := by
  intro c hc
  have hdigit : 48 ≤ c.toNat ∧ c.toNat ≤ 57 := by
    simpa [Char.isDigit, UInt32.le_iff_toNat_le] using h c hc
  constructor
  . simp only [isBlank, Bool.or_eq_false_iff, Bool.and_eq_false_iff, decide_eq_false_iff_not,
      beq_eq_false_iff_ne]
    omega
  . rintro rfl
    exact absurd hdigit.1 (by decide)

theorem isPlain_toDigits (n : Nat) : IsPlain (Nat.toDigits 10 n) :=
  isPlain_of_isDigit fun _ => Text.isDigit_of_mem_toDigits

theorem isDigit_of_mem_natCast {n : Nat} {c : Char} (h : c ∈ (toString n).toList) : c.isDigit := by
  have hdigits : (toString n).toList = Nat.toDigits 10 n := by simp
  exact Text.isDigit_of_mem_toDigits (hdigits ▸ h)

theorem isPlain_natCast (n : Nat) : IsPlain (toString n).toList :=
  isPlain_of_isDigit fun _ => isDigit_of_mem_natCast

theorem isPlain_intCast (n : Int) : IsPlain (toString n).toList := by
  cases n with
  | ofNat n => exact isPlain_natCast n
  | negSucc n =>
    change IsPlain ("-" ++ Nat.repr (n + 1)).toList
    rw [String.toList_append]
    exact isPlain_append (by decide) (isPlain_natCast (n + 1))

theorem isPlain_fixed (places : Nat) (x : Float32) : IsPlain (fixed places x) := by
  have hplaced : ∀ n, IsPlain (Text.placed places n) := by
    intro n
    rw [Text.placed_eq, List.append_cons]
    apply isPlain_append
    . exact isPlain_append (isPlain_toDigits _) (by decide)
    . exact isPlain_of_isDigit fun _ => Text.isDigit_of_mem_decimals
  have hsigned : ∀ digits, IsPlain digits → IsPlain ('-' :: digits) := fun _ =>
    isPlain_append (show IsPlain ['-'] by decide)
  unfold fixed
  dsimp only
  split
  . decide
  . split <;> split
    . exact hsigned _ (by decide)
    . exact hsigned _ (hplaced _)
    . decide
    . exact hplaced _

def row (columns : List String) : String := ",".intercalate columns

theorem toList_row (columns : List String) :
    (row columns).toList = [','].intercalate (columns.map String.toList) :=
  String.toList_intercalate

theorem fields_row {columns : List String} (hne : columns ≠ [])
    (h : ∀ column ∈ columns, IsPlain column.toList) :
    Text.fields ',' (row columns).toList = columns.map String.toList := by
  rw [toList_row]
  apply Text.fields_intercalate _ (by simpa using hne)
  intro part hpart hcomma
  obtain ⟨column, hcolumn, rfl⟩ := List.mem_map.1 hpart
  exact (h column hcolumn _ hcomma).2 rfl

theorem isBlank_of_mem_row {columns : List String} (h : ∀ column ∈ columns, IsPlain column.toList)
    {c : Char} (hc : c ∈ (row columns).toList) : isBlank c = false := by
  rw [toList_row] at hc
  rcases Text.mem_of_mem_intercalate hc with rfl | ⟨part, hpart, hc⟩
  . decide
  . obtain ⟨column, hcolumn, rfl⟩ := List.mem_map.1 hpart
    exact (h column hcolumn c hc).1

theorem trim_row {columns : List String} (h : ∀ column ∈ columns, IsPlain column.toList) :
    trim (row columns).toList = (row columns).toList :=
  Text.trim_of_not_blank fun _ => isBlank_of_mem_row h

theorem exists_cons_row {tag : String} {c : Char} {cs : List Char} (htag : tag.toList = c :: cs)
    (columns : List String) : ∃ rest, (row (tag :: columns)).toList = c :: rest := by
  rw [toList_row, List.map_cons, htag]
  cases columns with
  | nil => exact ⟨cs, List.intercalate_singleton⟩
  | cons column columns =>
    rw [List.map_cons, List.intercalate_cons_cons, List.append_assoc]
    exact ⟨_, rfl⟩

theorem fields_eq_of_row_eq {columns : List String} {line : String}
    (h : ∀ column ∈ columns, IsPlain column.toList) (hne : columns ≠ [])
    (heq : row columns = line) : Text.fields ',' line.toList = columns.map String.toList :=
  heq ▸ fields_row hne h

theorem readSample?_row {tag : String} {columns : List String} {c : Char} {cs : List Char}
    (h : ∀ column ∈ tag :: columns, IsPlain column.toList) (htag : tag.toList = c :: cs)
    (hc : c ≠ '#') (hheader : row (tag :: columns) ≠ sampleHeader) :
    readSample? (row (tag :: columns)) =
      if tag = sampleTag then some (readColumns (columns.map String.toList)) else none := by
  have hplain : trim tag.toList = tag.toList := (h tag List.mem_cons_self).trim_eq
  obtain ⟨rest, hrest⟩ := exists_cons_row htag columns
  unfold readSample?
  dsimp only
  rw [trim_row h, fields_row (List.cons_ne_nil tag columns) h, String.ofList_toList, if_neg]
  . rw [List.map_cons]
    dsimp only
    rw [hplain, String.ofList_toList]
    simp only [beq_iff_eq]
  . rw [hrest]
    simp [hc, hheader]

theorem readColumns_sampleColumns (sample : Sample) :
    readColumns ((sampleColumns sample).tail.map String.toList) = .ok sample.reread := by
  have hread : ∀ {α : Type} (name : String) (read : List Char → Except Text.NumberFault α)
      {column : List Char} {a : α}, IsPlain column → read column = .ok a →
      readColumn name read column = .ok a := by
    intro α name read column a hplain hok
    unfold readColumn
    rw [hplain.trim_eq, hok]
  have htime := hread "ms" _ (isPlain_natCast sample.time.toNat)
    (Text.readNat_toString (Nat.le_sub_one_of_lt sample.time.toNat_lt))
  have hid := hread "touch_id" _ (isPlain_natCast sample.id.toNat)
    (Text.readNat_toString (Nat.le_sub_one_of_lt sample.id.toNat_lt))
  have hnumber : ∀ name places, 0 < places → ∀ x,
      readColumn name Text.readDecimal (fixed places x) = .ok (Text.reread places x) :=
    fun name places hplaces x =>
      hread name _ (isPlain_fixed places x) (Text.readDecimal_fixed hplaces x)
  unfold sampleColumns readColumns
  simp only [List.tail_cons, List.map_cons, List.map_nil, String.toList_ofList,
    String.ofList_toList, htime, hid, Phase.ofLabel?_label, Origin.ofLabel?_label,
    hnumber "x" 6 (by decide), hnumber "y" 6 (by decide), hnumber "pressure" 4 (by decide)]
  change Except.ok ((Sample.clamped sample.phase (UInt32.ofNat sample.id.toNat) _ _
    (UInt64.ofNat sample.time.toNat) sample.origin).withPressure _) = _
  rw [UInt32.ofNat_toNat, UInt64.ofNat_toNat]
  rfl

theorem isPlain_sampleColumns (sample : Sample) :
    ∀ column ∈ sampleColumns sample, IsPlain column.toList := by
  have hphase : IsPlain sample.phase.label.toList := by
    cases sample.phase <;> decide
  have horigin : IsPlain sample.origin.label.toList := by
    cases sample.origin <;> decide
  unfold sampleColumns
  simp only [List.forall_mem_cons, String.toList_ofList, isPlain_natCast, isPlain_fixed, hphase,
    horigin, true_and]
  exact ⟨by decide, nofun⟩

theorem isPlain_label (kind : Gesture.Kind) : IsPlain kind.label.toList := by
  cases kind with
  | click => decide
  | hold => decide
  | drag axis => cases axis <;> decide
  | dragEnd axis swipe =>
    cases axis with
    | vertical => exact (by decide : IsPlain "drag_end_vertical".toList)
    | horizontal =>
      cases swipe with
      | none => decide
      | some direction => cases direction <;> decide

theorem isPlain_gestureColumns (gesture : Gesture) :
    ∀ column ∈ gestureColumns gesture, IsPlain column.toList := by
  have hkind := isPlain_label gesture.kind
  unfold gestureColumns
  simp only [List.forall_mem_cons, isPlain_natCast, isPlain_intCast, hkind, true_and]
  exact ⟨by decide, nofun⟩

theorem readSample?_sample (sample : Sample) :
    readSample? (row (sampleColumns sample)) = some (.ok sample.reread) := by
  have hplain := isPlain_sampleColumns sample
  have hheader : row (sampleColumns sample) ≠ sampleHeader := by
    intro heq
    -- The time of a sample has digits, and the name of its column has not.
    have htime : ['m', 's'] = (toString sample.time.toNat).toList :=
      Option.some.inj (congrArg (·[1]?) (fields_eq_of_row_eq hplain (List.cons_ne_nil _ _) heq))
    have hdigit : 'm'.isDigit := isDigit_of_mem_natCast (htime ▸ List.mem_cons_self)
    exact absurd hdigit (by decide)
  rw [sampleColumns] at hplain hheader ⊢
  rw [readSample?_row hplain rfl (by decide) hheader, if_pos rfl]
  exact congrArg some (readColumns_sampleColumns sample)

theorem readSample?_gesture (gesture : Gesture) :
    readSample? (row (gestureColumns gesture)) = none := by
  have hplain := isPlain_gestureColumns gesture
  have hheader : row (gestureColumns gesture) ≠ sampleHeader := by
    intro heq
    have htag : sampleTag.toList = "gesture".toList :=
      Option.some.inj (congrArg (·[0]?) (fields_eq_of_row_eq hplain (List.cons_ne_nil _ _) heq))
    exact absurd htag (by decide)
  rw [gestureColumns] at hplain hheader ⊢
  rw [readSample?_row hplain rfl (by decide) hheader, if_neg (by decide)]

theorem readSample?_comment {line : String} {cs : List Char} (h : line.toList = '#' :: cs) :
    readSample? line = none := by
  have hhead := Text.head?_trim cs (show isBlank '#' = false by decide)
  unfold readSample?
  dsimp only
  rw [h, hhead, if_pos (by simp)]

def IsLine (text : String) : Prop := '\n' ∉ text.toList ∧ '\r' ∉ text.toList

instance (text : String) : Decidable (IsLine text) := inferInstanceAs (Decidable (_ ∧ _))

theorem isLine_append (text more : String) :
    IsLine (text ++ more) ↔ IsLine text ∧ IsLine more := by
  unfold IsLine
  rw [String.toList_append, List.mem_append, List.mem_append, not_or, not_or]
  exact and_and_and_comm

theorem isLine_of_not_blank {text : String} (h : ∀ c ∈ text.toList, isBlank c = false) :
    IsLine text :=
  ⟨fun hmem => absurd (h _ hmem) (by decide), fun hmem => absurd (h _ hmem) (by decide)⟩

theorem isLine_natCast (n : Nat) : IsLine (toString n) :=
  isLine_of_not_blank fun c hc => (isPlain_natCast n c hc).1

theorem isLine_row {columns : List String} (h : ∀ column ∈ columns, IsPlain column.toList) :
    IsLine (row columns) :=
  isLine_of_not_blank fun _ => isBlank_of_mem_row h

namespace Journal

def title (journal : Journal) : String :=
  let flag (b : Bool) : Nat := if b then 1 else 0
  s!"# TRACE_DUMP start_ms={(journal.first.getD 0).toNat} end_ms={(journal.last.getD 0).toNat} " ++
    s!"pointers={journal.samples.entries.length} " ++
    s!"pointer_overflow={flag journal.samples.overflowed} " ++
    s!"gestures={journal.gestures.entries.length} " ++
    s!"gesture_overflow={flag journal.gestures.overflowed}"

theorem comment_eq (journal : Journal) : journal.comment = journal.title ++ "\n" := by
  unfold comment title
  simp only [String.append_assoc]
  rfl

def rows (journal : Journal) : List String :=
  journal.title ::
    sampleHeader :: journal.samples.entries.map (fun sample => row (sampleColumns sample)) ++
    gestureHeader :: journal.gestures.entries.map fun gesture => row (gestureColumns gesture)

theorem write_eq_join (journal : Journal) :
    journal.write = String.join (journal.rows.map (· ++ "\n")) := by
  have hsamples : journal.samples.entries.map sampleLine =
      (journal.samples.entries.map fun sample => row (sampleColumns sample)).map (· ++ "\n") := by
    rw [List.map_map]
    rfl
  have hgestures : journal.gestures.entries.map gestureLine =
      (journal.gestures.entries.map fun gesture => row (gestureColumns gesture)).map
        (· ++ "\n") := by
    rw [List.map_map]
    rfl
  rw [write, comment_eq, hsamples, hgestures]
  simp only [rows, List.map_append, List.map_cons, List.cons_append, String.join_cons,
    String.join_append, String.append_assoc]

theorem exists_cons_title (journal : Journal) : ∃ cs, journal.title.toList = '#' :: cs := by
  unfold title
  simp only [String.toList_append, List.append_assoc]
  exact ⟨_, rfl⟩

theorem isLine_title (journal : Journal) : IsLine journal.title := by
  unfold title
  simp only [isLine_append, isLine_natCast, and_true]
  decide

theorem isLine_of_mem_rows (journal : Journal) : ∀ line ∈ journal.rows, IsLine line := by
  unfold rows
  simp only [List.cons_append, List.forall_mem_cons, List.forall_mem_append, List.forall_mem_map]
  exact ⟨journal.isLine_title, by decide, fun sample _ => isLine_row (isPlain_sampleColumns sample),
    by decide, fun gesture _ => isLine_row (isPlain_gestureColumns gesture)⟩

theorem readLines_of_no_fault {α : Type} {read? : String → Option (Except RowFault α)}
    {lines : List String} (h : ∀ line ∈ lines, ∀ fault, read? line ≠ some (.error fault))
    (number : Nat) :
    readLines read? number (lines.map some) =
      .ok (lines.filterMap fun line => (read? line).bind Except.toOption) := by
  induction lines generalizing number with
  | nil => rfl
  | cons line lines ih =>
    obtain ⟨hline, hlines⟩ := List.forall_mem_cons.1 h
    rw [List.map_cons, readLines, List.filterMap_cons]
    cases hread : read? line with
    | none => exact ih hlines (number + 1)
    | some outcome =>
      cases outcome with
      | error fault => exact absurd hread (hline fault)
      | ok a =>
        dsimp only
        rw [ih hlines (number + 1)]
        rfl

theorem readSamples_rows (journal : Journal) :
    readLines readSample? 1 (journal.rows.map some) =
      .ok (journal.samples.entries.map Sample.reread) := by
  obtain ⟨cs, hcs⟩ := journal.exists_cons_title
  have htitle := readSample?_comment hcs
  have hsamples : readSample? sampleHeader = none := by decide
  have hgestures : readSample? gestureHeader = none := by decide
  rw [readLines_of_no_fault]
  . unfold rows
    simp only [List.cons_append, List.filterMap_cons, List.filterMap_append, List.filterMap_map,
      htitle, hsamples, hgestures, Function.comp_def, readSample?_sample, readSample?_gesture]
    simp [Except.toOption]
  . unfold rows
    simp only [List.cons_append, List.forall_mem_cons, List.forall_mem_append, List.forall_mem_map,
      htitle, hsamples, hgestures, readSample?_sample, readSample?_gesture]
    simp

/--
What is written of a journal is read back: all samples that it has kept, in order, each with its
phase, id, time and origin, and with the numbers that its decimals come to, brought between 0 and 1.
-/
theorem readSampleBytes_write (journal : Journal) :
    readSampleBytes journal.write.toUTF8.toList =
        .ok (journal.samples.entries.map Sample.reread) ∧
      readSamples journal.write = .ok (journal.samples.entries.map Sample.reread) ∧
      ∀ sample : Sample,
        Text.readDecimal (fixed 6 sample.x) = .ok (Text.reread 6 sample.x) ∧
        Text.readDecimal (fixed 6 sample.y) = .ok (Text.reread 6 sample.y) ∧
        Text.readDecimal (fixed 4 sample.pressure) = .ok (Text.reread 4 sample.pressure) ∧
        (sample.reread = sample ↔
          Binary.clampUnit (Text.reread 6 sample.x) = sample.x ∧
          Binary.clampUnit (Text.reread 6 sample.y) = sample.y ∧
          Binary.clampUnit (Text.reread 4 sample.pressure) = sample.pressure) := by
  have hlines : Text.linesOf journal.write = journal.rows := by
    rw [write_eq_join, Text.linesOf_join _ journal.isLine_of_mem_rows]
  refine ⟨?_, ?_, fun sample => ⟨?_, ?_, ?_, ?_⟩⟩
  . unfold readSampleBytes
    rw [Text.linesOfBytes_toUTF8, hlines, readSamples_rows]
  . unfold readSamples
    rw [hlines, readSamples_rows]
  . exact Text.readDecimal_fixed (by decide) sample.x
  . exact Text.readDecimal_fixed (by decide) sample.y
  . exact Text.readDecimal_fixed (by decide) sample.pressure
  . exact sample.reread_eq_self_iff

end Journal

end Trace

end TouchPanel
