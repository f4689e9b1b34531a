import TouchPanel.Kernel.LittleEndian
import TouchPanel.Kernel.Record
import TouchPanel.Time

/-!
This module contains the two layouts of records as bytes, and the splitter that cuts a stream of
bytes into records however the stream arrives.
-/

namespace TouchPanel.Kernel

/--
A record holds two words of time, then type, code and value. The words of time have 64 bits in the
wide layout and 32 bits in the compact one.
-/
inductive Layout where
  | wide
  | compact
  deriving DecidableEq, Repr

namespace Layout

def word : Layout → Nat
  | wide => 8
  | compact => 4

def size (layout : Layout) : Nat := 2 * layout.word + 8

theorem size_pos (layout : Layout) : 0 < layout.size := by
  cases layout <;> decide

/--
The time in microseconds that two words stand for. Negative words count as zero, and a time that is
too late as the last one.
-/
def time (seconds micros : Int) : UInt64 :=
  Time.after (Time.times (UInt64.ofNat seconds.toNat) 1000000) (UInt64.ofNat micros.toNat)

def encodeFields (layout : Layout) (seconds micros : Int) (kind code : UInt16) (value : Int32) :
    List UInt8 :=
  LittleEndian.writeInt layout.word seconds ++ (LittleEndian.writeInt layout.word micros ++
    (LittleEndian.writeNat 2 kind.toNat ++ (LittleEndian.writeNat 2 code.toNat ++
      LittleEndian.writeInt 4 value.toInt)))

def encode (layout : Layout) (record : Record) : List UInt8 :=
  layout.encodeFields (record.time.toNat / 1000000 : Nat) (record.time.toNat % 1000000 : Nat)
    record.kind record.code record.value

def decode? (layout : Layout) (bytes : List UInt8) : Option Record :=
  let record := bytes.take layout.size
  if record.length < layout.size then
    none
  else
    let seconds := LittleEndian.readInt (record.take layout.word)
    let record := record.drop layout.word
    let micros := LittleEndian.readInt (record.take layout.word)
    let record := record.drop layout.word
    some {
      time := time seconds micros
      kind := UInt16.ofNat (LittleEndian.readNat (record.take 2))
      code := UInt16.ofNat (LittleEndian.readNat ((record.drop 2).take 2))
      value := Int32.ofInt (LittleEndian.readInt ((record.drop 4).take 4)) }

theorem size_le_of_decode? {layout : Layout} {bytes : List UInt8} {record : Record}
    (h : layout.decode? bytes = some record) : layout.size ≤ bytes.length := by
  simp only [decode?] at h
  split at h
  . cases h
  . rename_i hlen
    simp only [List.length_take] at hlen
    omega

/--
The records that a list of bytes holds, and the bytes after the last whole one.
-/
def split (layout : Layout) (bytes : List UInt8) : List Record × List UInt8 :=
  match h : layout.decode? bytes with
  | none => ([], bytes)
  | some record =>
    have := size_le_of_decode? h
    have := layout.size_pos
    let (records, rest) := layout.split (bytes.drop layout.size)
    (record :: records, rest)
termination_by bytes.length
decreasing_by simp only [List.length_drop]; omega

def decodeAll (layout : Layout) (bytes : List UInt8) : List Record :=
  (layout.split bytes).1

theorem decodeAll_of_decode? {layout : Layout} {bytes : List UInt8} {record : Record}
    (h : layout.decode? bytes = some record) :
    layout.decodeAll bytes = record :: layout.decodeAll (bytes.drop layout.size) := by
  unfold decodeAll
  rw [split]
  split
  . next hnone =>
    rw [h] at hnone
    contradiction
  . next found hfound =>
    rw [h] at hfound
    obtain rfl := Option.some.inj hfound
    rfl

theorem decodeAll_of_decode?_eq_none {layout : Layout} {bytes : List UInt8}
    (h : layout.decode? bytes = none) : layout.decodeAll bytes = [] := by
  unfold decodeAll
  rw [split]
  split
  . rfl
  . next found hfound =>
    rw [h] at hfound
    contradiction

end Layout

/--
A splitter keeps the bytes of a record that has not arrived whole.
-/
structure Splitter where
  layout : Layout
  pending : List UInt8
  deriving DecidableEq, Repr

namespace Splitter

def new (layout : Layout) : Splitter := ⟨layout, []⟩

def push (splitter : Splitter) (bytes : List UInt8) : Splitter × List Record :=
  let (records, pending) := splitter.layout.split (splitter.pending ++ bytes)
  ({ splitter with pending }, records)

end Splitter

end TouchPanel.Kernel
