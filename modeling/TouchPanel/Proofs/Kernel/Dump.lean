import Mathlib.Algebra.Group.Int.Defs
import Mathlib.Algebra.Group.Nat.Defs
import TouchPanel.Kernel.Layout

/-!
This module contains the proof that decoding undoes encoding for whole dumps. Main statements:
`Layout.decode?_encode` for one record with any two words of time, `Layout.decodeAll_encode` for a
dump of them, and `Layout.decodeAll_cut` for a dump whose last record is not whole.
-/

namespace TouchPanel.Kernel

/--
A record as a dump holds it, with two words of time.
-/
structure Fields where
  seconds : Int
  micros : Int
  kind : UInt16
  code : UInt16
  value : Int32
  deriving DecidableEq, Repr

namespace Fields

def ofRecord (record : Record) : Fields :=
  { seconds := (record.time.toNat / 1000000 : Nat)
    micros := (record.time.toNat % 1000000 : Nat)
    kind := record.kind
    code := record.code
    value := record.value }

def encode (layout : Layout) (fields : Fields) : List UInt8 :=
  layout.encodeFields fields.seconds fields.micros fields.kind fields.code fields.value

def record (fields : Fields) : Record :=
  { time := Layout.time fields.seconds fields.micros
    kind := fields.kind
    code := fields.code
    value := fields.value }

end Fields

namespace Layout

def Holds (layout : Layout) (n : Int) : Prop :=
  -2 ^ (8 * layout.word - 1) ≤ n ∧ n < 2 ^ (8 * layout.word - 1)

end Layout

structure Fields.FitIn (layout : Layout) (fields : Fields) : Prop where
  seconds : layout.Holds fields.seconds
  micros : layout.Holds fields.micros

namespace Layout

variable {layout : Layout} {fields : Fields} {n : Int}

theorem holds_wide_iff : wide.Holds n ↔ -2 ^ 63 ≤ n ∧ n < 2 ^ 63 := Iff.rfl

theorem holds_compact_iff : compact.Holds n ↔ -2 ^ 31 ≤ n ∧ n < 2 ^ 31 := Iff.rfl

theorem holds_wide_of_holds (h : layout.Holds n) : wide.Holds n := by
  cases layout with
  | wide => exact h
  | compact =>
    rw [holds_compact_iff] at h
    rw [holds_wide_iff]
    omega

theorem readInt_writeInt_word (h : layout.Holds n) :
    LittleEndian.readInt (LittleEndian.writeInt layout.word n) = n := by
  cases layout with
  | wide =>
    rw [holds_wide_iff] at h
    have hcount : LittleEndian.count wide.word = 2 ^ 64 := by decide
    apply LittleEndian.readInt_writeInt <;> rw [hcount] <;> omega
  | compact =>
    rw [holds_compact_iff] at h
    have hcount : LittleEndian.count compact.word = 2 ^ 32 := by decide
    apply LittleEndian.readInt_writeInt <;> rw [hcount] <;> omega

/--
The time of the seconds and the sum are each cut to the last time there is. That comes to cutting
once: seconds that are too late by themselves are too late with the microseconds.
-/
theorem toNat_time {seconds micros : Int} (hseconds : wide.Holds seconds)
    (hmicros : wide.Holds micros) :
    ((time seconds micros).toNat : Int) =
      min (2 ^ 64 - 1) (max seconds 0 * 1000000 + max micros 0) := by
  rw [holds_wide_iff] at hseconds hmicros
  have hseconds' : (UInt64.ofNat seconds.toNat).toNat = seconds.toNat :=
    UInt64.toNat_ofNat_of_lt' (by simp only [UInt64.size]; omega)
  have hmicros' : (UInt64.ofNat micros.toNat).toNat = micros.toNat :=
    UInt64.toNat_ofNat_of_lt' (by simp only [UInt64.size]; omega)
  have hmillion : (1000000 : UInt64).toNat = 1000000 := rfl
  unfold time
  rw [Time.toNat_after, Time.toNat_times, hseconds', hmicros', hmillion]
  simp only [UInt64.size]
  omega

theorem length_encode (layout : Layout) (fields : Fields) :
    (fields.encode layout).length = layout.size := by
  unfold Fields.encode encodeFields size
  simp only [List.length_append, LittleEndian.length_writeInt, LittleEndian.length_writeNat]
  omega

theorem kind_of_bytes (kind : UInt16) :
    UInt16.ofNat (LittleEndian.readNat (LittleEndian.writeNat 2 kind.toNat)) = kind := by
  rw [LittleEndian.readNat_writeNat kind.toNat_lt]
  exact UInt16.ofNat_toNat

theorem value_of_bytes (value : Int32) :
    Int32.ofInt (LittleEndian.readInt (LittleEndian.writeInt 4 value.toInt)) = value := by
  have hcount : LittleEndian.count 4 = 2 ^ 32 := by decide
  have hleast := value.le_toInt
  have hgreatest := value.toInt_lt
  rw [LittleEndian.readInt_writeInt (by rw [hcount]; omega) (by rw [hcount]; omega)]
  exact Int32.ofInt_toInt value

theorem decode?_encode (h : fields.FitIn layout) (rest : List UInt8) :
    layout.decode? (fields.encode layout ++ rest) = some fields.record := by
  have hlength := length_encode layout fields
  have hbytes : (fields.encode layout ++ rest).take layout.size = fields.encode layout :=
    List.take_left' hlength
  unfold decode?
  rw [hbytes, if_neg (by omega)]
  unfold Fields.encode encodeFields Fields.record
  have hvalue : ((LittleEndian.writeNat 2 fields.kind.toNat ++
      (LittleEndian.writeNat 2 fields.code.toNat ++
        LittleEndian.writeInt 4 fields.value.toInt)).drop 4).take 4 =
      LittleEndian.writeInt 4 fields.value.toInt := by
    rw [← List.append_assoc, List.drop_left' (by simp), List.take_of_length_le (by simp)]
  -- Every field is as long as the part of the record that it is read from.
  simp only [List.take_left', List.drop_left', hvalue, LittleEndian.length_writeInt,
    LittleEndian.length_writeNat, readInt_writeInt_word h.seconds, readInt_writeInt_word h.micros,
    kind_of_bytes, value_of_bytes]

theorem decode?_of_short {bytes : List UInt8} (h : bytes.length < layout.size) :
    layout.decode? bytes = none := by
  unfold decode?
  rw [if_pos]
  rw [List.length_take]
  omega

theorem decodeAll_of_short {bytes : List UInt8} (h : bytes.length < layout.size) :
    layout.decodeAll bytes = [] :=
  decodeAll_of_decode?_eq_none (decode?_of_short h)

theorem decodeAll_nil (layout : Layout) : layout.decodeAll [] = [] :=
  decodeAll_of_short layout.size_pos

theorem decodeAll_encode {dump : List Fields} (h : ∀ fields ∈ dump, fields.FitIn layout)
    (rest : List UInt8) :
    layout.decodeAll (dump.flatMap (Fields.encode layout) ++ rest) =
      dump.map Fields.record ++ layout.decodeAll rest := by
  induction dump with
  | nil => rfl
  | cons fields dump ih =>
    have hfields := h fields List.mem_cons_self
    rw [List.flatMap_cons, List.append_assoc, decodeAll_of_decode? (decode?_encode hfields _),
      List.drop_left' (length_encode layout fields),
      ih fun other hmem => h other (List.mem_cons_of_mem _ hmem)]
    rfl

theorem decodeAll_flatMap_encode {dump : List Fields} (h : ∀ fields ∈ dump, fields.FitIn layout) :
    layout.decodeAll (dump.flatMap (Fields.encode layout)) = dump.map Fields.record := by
  have hall := decodeAll_encode h []
  rw [decodeAll_nil, List.append_nil, List.append_nil] at hall
  exact hall

theorem length_flatMap_encode (layout : Layout) (dump : List Fields) :
    (dump.flatMap (Fields.encode layout)).length = layout.size * dump.length := by
  induction dump with
  | nil => rfl
  | cons fields dump ih =>
    rw [List.flatMap_cons, List.length_append, length_encode, ih, List.length_cons, Nat.mul_succ,
      Nat.add_comm]

theorem decodeAll_cut {dump : List Fields} (h : ∀ fields ∈ dump, fields.FitIn layout) {cut : Nat}
    (hpos : 0 < cut) (hsize : cut ≤ layout.size) :
    layout.decodeAll ((dump.flatMap (Fields.encode layout)).take
        ((dump.flatMap (Fields.encode layout)).length - cut)) =
      (dump.map Fields.record).dropLast := by
  rcases List.eq_nil_or_concat dump with rfl | ⟨dump, last, hdump⟩
  . rw [List.flatMap_nil, List.take_nil, decodeAll_nil]
    rfl
  . rw [List.concat_eq_append] at hdump
    subst hdump
    have hlength := length_encode layout last
    have hinit : ∀ fields ∈ dump, fields.FitIn layout :=
      fun fields hmem => h fields (List.mem_append_left _ hmem)
    have hcut : (dump.flatMap (Fields.encode layout)).length + (last.encode layout).length - cut =
        (dump.flatMap (Fields.encode layout)).length + (layout.size - cut) := by omega
    rw [List.flatMap_append, List.flatMap_singleton, List.length_append, hcut,
      List.take_length_add_append, decodeAll_encode hinit, decodeAll_of_short, List.append_nil,
      List.map_append, List.map_singleton, List.dropLast_concat]
    rw [List.length_take]
    omega

theorem fitIn_ofRecord {record : Record}
    (h : layout = .wide ∨ record.time.toNat / 1000000 < 2 ^ 31) :
    (Fields.ofRecord record).FitIn layout := by
  have htime := record.time.toNat_lt
  cases layout with
  | wide =>
    unfold Fields.ofRecord
    constructor
    . exact holds_wide_iff.2 (by dsimp only; omega)
    . exact holds_wide_iff.2 (by dsimp only; omega)
  | compact =>
    have hseconds : record.time.toNat / 1000000 < 2 ^ 31 := h.resolve_left (by decide)
    unfold Fields.ofRecord
    constructor
    . exact holds_compact_iff.2 (by dsimp only; omega)
    . exact holds_compact_iff.2 (by dsimp only; omega)

theorem record_ofRecord (record : Record) : (Fields.ofRecord record).record = record := by
  have hfit := @fitIn_ofRecord .wide record (.inl rfl)
  have htime : (Fields.ofRecord record).record.time = record.time := by
    have hlast := record.time.toNat_lt
    have hint := toNat_time hfit.seconds hfit.micros
    unfold Fields.ofRecord at hint
    apply UInt64.toNat_inj.1
    unfold Fields.record Fields.ofRecord
    dsimp only at hint ⊢
    omega
  change { record with time := (Fields.ofRecord record).record.time } = record
  rw [htime]

theorem map_record_ofRecord (records : List Record) :
    (records.map Fields.ofRecord).map Fields.record = records := by
  rw [List.map_map]
  exact List.map_id'' record_ofRecord records

/--
A dump gives back the records that it was made of, and all but the last one if bytes of it are
missing at the end. Whatever the words of time are, what is decoded has the time that they stand
for, negative words as zero and no later than the last time there is, and it does not depend on the
layout.
-/
theorem decodes_dump (layout : Layout) :
    (∀ records : List Record,
      (∀ record ∈ records, layout = .wide ∨ record.time.toNat / 1000000 < 2 ^ 31) →
      let bytes := records.flatMap layout.encode
      bytes.length = layout.size * records.length ∧ layout.decodeAll bytes = records ∧
        ∀ cut, 0 < cut → cut ≤ layout.size →
          layout.decodeAll (bytes.take (bytes.length - cut)) = records.dropLast) ∧
    ∀ dump : List Fields, (∀ fields ∈ dump, fields.FitIn layout) →
      layout.decodeAll (dump.flatMap (Fields.encode layout)) = dump.map Fields.record ∧
      (∀ fields ∈ dump, (fields.record.time.toNat : Int) =
        min (2 ^ 64 - 1) (max fields.seconds 0 * 1000000 + max fields.micros 0)) ∧
      layout.decodeAll (dump.flatMap (Fields.encode layout)) =
        Layout.wide.decodeAll (dump.flatMap (Fields.encode .wide)) := by
  constructor
  . intro records hrecords bytes
    have hfit : ∀ fields ∈ records.map Fields.ofRecord, fields.FitIn layout := by
      intro fields hmem
      obtain ⟨record, hrecord, rfl⟩ := List.mem_map.1 hmem
      exact fitIn_ofRecord (hrecords record hrecord)
    have hbytes : bytes = (records.map Fields.ofRecord).flatMap (Fields.encode layout) := by
      rw [List.flatMap_map]
      rfl
    rw [hbytes]
    refine ⟨?_, ?_, ?_⟩
    . rw [length_flatMap_encode, List.length_map]
    . rw [decodeAll_flatMap_encode hfit, map_record_ofRecord]
    . intro cut hpos hsize
      rw [decodeAll_cut hfit hpos hsize, map_record_ofRecord]
  . intro dump hfit
    have hwide : ∀ fields ∈ dump, fields.FitIn .wide := by
      intro fields hmem
      obtain ⟨hseconds, hmicros⟩ := hfit fields hmem
      exact ⟨holds_wide_of_holds hseconds, holds_wide_of_holds hmicros⟩
    refine ⟨decodeAll_flatMap_encode hfit, ?_, ?_⟩
    . intro fields hmem
      obtain ⟨hseconds, hmicros⟩ := hwide fields hmem
      exact toNat_time hseconds hmicros
    . rw [decodeAll_flatMap_encode hfit, decodeAll_flatMap_encode hwide]

/--
A compact dump as late as can be, and seconds that are too many for the time of a record.
-/
theorem decodes_dump_late :
    let first : Record := ⟨5000000, 3, 47, -1⟩
    let last : Record := ⟨2147483647999999, 0, 0, 0⟩
    let bytes := [first, last].flatMap Layout.compact.encode
    let late : Fields := ⟨2 ^ 63 - 1, -7, 1, 330, 1⟩
    Layout.compact.decodeAll bytes = [first, last] ∧
      Layout.compact.decodeAll (bytes.take (bytes.length - 1)) = [first] ∧
      Layout.wide.decodeAll ([late].flatMap (Fields.encode .wide)) = [late].map Fields.record ∧
      (late.record.time.toNat : Int) = 2 ^ 64 - 1 := by
  intro first last bytes late
  have hrecords : ∀ record ∈ [first, last],
      Layout.compact = .wide ∨ record.time.toNat / 1000000 < 2 ^ 31 := by decide
  have hlate : ∀ fields ∈ [late], fields.FitIn .wide := by
    intro fields hmem
    obtain rfl := List.mem_singleton.1 hmem
    constructor <;> rw [holds_wide_iff] <;> decide
  obtain ⟨-, hall, hcut⟩ := (decodes_dump .compact).1 [first, last] hrecords
  obtain ⟨hwide, htime, -⟩ := (decodes_dump .wide).2 [late] hlate
  exact ⟨hall, hcut 1 (by decide) (by decide), hwide, htime late List.mem_cons_self⟩

end Layout

end TouchPanel.Kernel
