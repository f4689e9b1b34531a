import TouchPanel.Proofs.Kernel.Dump

/-!
This module contains the proof that it makes no difference how bytes arrive at a splitter
(`Splitter.splits_pushAll`): it puts out the records of all bytes, each as soon as it is whole, and
keeps the bytes after them.

The bytes that are left over are split again in front of those that come next
(`Layout.split_append`).
-/

namespace TouchPanel.Kernel

namespace Layout

variable {layout : Layout} {bytes : List UInt8} {record : Record}

theorem split_of_decode? (h : layout.decode? bytes = some record) :
    layout.split bytes =
      (record :: (layout.split (bytes.drop layout.size)).1,
        (layout.split (bytes.drop layout.size)).2) := by
  rw [split]
  split
  . next hnone =>
    rw [h] at hnone
    contradiction
  . next found hfound =>
    rw [h] at hfound
    obtain rfl := Option.some.inj hfound
    rfl

theorem split_of_short (h : bytes.length < layout.size) : layout.split bytes = ([], bytes) := by
  rw [split]
  split
  . rfl
  . next found hfound =>
    have := size_le_of_decode? hfound
    omega

theorem exists_decode? (h : layout.size ≤ bytes.length) :
    ∃ record, layout.decode? bytes = some record := by
  unfold decode?
  dsimp only
  rw [if_neg]
  . exact ⟨_, rfl⟩
  . rw [List.length_take]
    omega

theorem decode?_append (h : layout.size ≤ bytes.length) (more : List UInt8) :
    layout.decode? (bytes ++ more) = layout.decode? bytes := by
  unfold decode?
  rw [List.take_append_of_le_length h]

/--
Bytes are split in two ways: there is no whole record among them, or they begin with one. The bytes
after it are fewer.
-/
theorem split_induction (layout : Layout) {motive : List UInt8 → Prop}
    (short : ∀ bytes, bytes.length < layout.size → motive bytes)
    (whole : ∀ bytes record, layout.size ≤ bytes.length → layout.decode? bytes = some record →
      motive (bytes.drop layout.size) → motive bytes)
    (bytes : List UInt8) : motive bytes := by
  induction hlength : bytes.length using Nat.strongRecOn generalizing bytes with
  | ind length ih =>
    by_cases hshort : bytes.length < layout.size
    . exact short bytes hshort
    . have hsize : layout.size ≤ bytes.length := Nat.le_of_not_lt hshort
      have hpos := layout.size_pos
      obtain ⟨record, hrecord⟩ := exists_decode? hsize
      have hdrop : (bytes.drop layout.size).length < length := by
        rw [List.length_drop]
        omega
      exact whole bytes record hsize hrecord (ih _ hdrop _ rfl)

theorem split_append (bytes more : List UInt8) :
    layout.split (bytes ++ more) =
      ((layout.split bytes).1 ++ (layout.split ((layout.split bytes).2 ++ more)).1,
        (layout.split ((layout.split bytes).2 ++ more)).2) := by
  induction bytes using split_induction layout with
  | short bytes hshort => rw [split_of_short hshort, List.nil_append]
  | whole bytes record hsize hrecord ih =>
    have happend := (decode?_append hsize more).trans hrecord
    rw [split_of_decode? happend, split_of_decode? hrecord, List.drop_append_of_le_length hsize, ih]
    rfl

theorem split_parts (bytes : List UInt8) :
    (layout.split bytes).1.length = bytes.length / layout.size ∧
      (layout.split bytes).2 = bytes.drop (layout.size * (bytes.length / layout.size)) := by
  induction bytes using split_induction layout with
  | short bytes hshort =>
    rw [split_of_short hshort, Nat.div_eq_of_lt hshort]
    exact ⟨rfl, rfl⟩
  | whole bytes record hsize hrecord ih =>
    obtain ⟨hrecords, hrest⟩ := ih
    rw [List.length_drop] at hrecords hrest
    have hcount : bytes.length / layout.size = (bytes.length - layout.size) / layout.size + 1 :=
      Nat.div_eq_sub_div layout.size_pos hsize
    rw [split_of_decode? hrecord, List.length_cons, hrecords, hrest, hcount]
    refine ⟨rfl, ?_⟩
    rw [List.drop_drop, Nat.mul_succ, Nat.add_comm]

theorem length_split_rest (bytes : List UInt8) :
    (layout.split bytes).2.length = bytes.length % layout.size := by
  rw [(split_parts bytes).2, List.length_drop, Nat.mod_def]

theorem getElem?_decodeAll (bytes : List UInt8) (index : Nat) :
    (layout.decodeAll bytes)[index]? = layout.decode? (bytes.drop (layout.size * index)) := by
  induction bytes using split_induction layout generalizing index with
  | short bytes hshort =>
    rw [decodeAll_of_short hshort, decode?_of_short]
    . rfl
    . rw [List.length_drop]
      omega
  | whole bytes record hsize hrecord ih =>
    rw [decodeAll_of_decode? hrecord]
    cases index with
    | zero => exact hrecord.symm
    | succ index =>
      rw [List.getElem?_cons_succ, ih, List.drop_drop, Nat.mul_succ, Nat.add_comm]

end Layout

namespace Splitter

def pushAll (splitter : Splitter) : List (List UInt8) → Splitter × List Record
  | [] => (splitter, [])
  | chunk :: chunks =>
    let (splitter, records) := splitter.push chunk
    let (splitter, more) := splitter.pushAll chunks
    (splitter, records ++ more)

def IsPartial (splitter : Splitter) : Prop :=
  splitter.pending.length < splitter.layout.size

variable {splitter : Splitter}

theorem isPartial_new (layout : Layout) : (new layout).IsPartial := layout.size_pos

theorem isPartial_push (splitter : Splitter) (chunk : List UInt8) :
    (splitter.push chunk).1.IsPartial := by
  unfold IsPartial push
  dsimp only
  rw [Layout.length_split_rest]
  exact Nat.mod_lt _ splitter.layout.size_pos

theorem pushAll_eq (h : splitter.IsPartial) (chunks : List (List UInt8)) :
    splitter.pushAll chunks =
      ({ splitter with
          pending := (splitter.layout.split (splitter.pending ++ chunks.flatten)).2 },
        (splitter.layout.split (splitter.pending ++ chunks.flatten)).1) := by
  induction chunks generalizing splitter with
  | nil =>
    rw [List.flatten_nil, List.append_nil, Layout.split_of_short h]
    rfl
  | cons chunk chunks ih =>
    unfold pushAll
    dsimp only
    rw [ih (splitter.isPartial_push chunk), List.flatten_cons, ← List.append_assoc,
      Layout.split_append (splitter.pending ++ chunk)]
    rfl

theorem pushAll_append (splitter : Splitter) (chunks more : List (List UInt8)) :
    splitter.pushAll (chunks ++ more) =
      (((splitter.pushAll chunks).1.pushAll more).1,
        (splitter.pushAll chunks).2 ++ ((splitter.pushAll chunks).1.pushAll more).2) := by
  induction chunks generalizing splitter with
  | nil => rfl
  | cons chunk chunks ih => simp [pushAll, ih]

/--
However bytes are cut into chunks, a splitter puts out the records of all of them, each read from
its place. After any number of chunks it has put out the records that are whole by then, and keeps
the bytes that are left over.
-/
theorem splits_pushAll (layout : Layout) (chunks : List (List UInt8)) :
    let records := ((new layout).pushAll chunks).2
    records = layout.decodeAll chunks.flatten ∧
      (∀ index, records[index]? =
        layout.decode? (chunks.flatten.drop (layout.size * index))) ∧
      ∀ count,
        let arrived := (chunks.take count).flatten
        let (splitter, sofar) := (new layout).pushAll (chunks.take count)
        records = sofar ++ (splitter.pushAll (chunks.drop count)).2 ∧
          sofar.length = arrived.length / layout.size ∧
          splitter.pending.length = arrived.length % layout.size ∧
          splitter.pending = arrived.drop (layout.size * sofar.length) := by
  intro records
  have hpush : ∀ chunks : List (List UInt8), (new layout).pushAll chunks =
      (⟨layout, (layout.split chunks.flatten).2⟩, layout.decodeAll chunks.flatten) :=
    pushAll_eq (isPartial_new layout)
  have hrecords : records = layout.decodeAll chunks.flatten := congrArg Prod.snd (hpush chunks)
  refine ⟨hrecords, ?_, ?_⟩
  . intro index
    rw [hrecords, Layout.getElem?_decodeAll]
  . intro count arrived
    have happend := (new layout).pushAll_append (chunks.take count) (chunks.drop count)
    rw [List.take_append_drop] at happend
    obtain ⟨hlength, hrest⟩ := @Layout.split_parts layout arrived
    refine ⟨congrArg Prod.snd happend, ?_, ?_, ?_⟩
    . rw [hpush]
      exact hlength
    . rw [hpush]
      exact Layout.length_split_rest arrived
    . rw [hpush]
      dsimp only
      rw [hrest]
      exact congrArg (fun n => arrived.drop (layout.size * n)) hlength.symm

end Splitter

end TouchPanel.Kernel
