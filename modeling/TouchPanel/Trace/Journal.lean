import TouchPanel.Trace.Row

/-!
This module contains the journal of a session: the newest samples and gestures, up to a limit for
each, and whether older ones were dropped.
-/

namespace TouchPanel.Trace

/--
The newest entries of a sequence, and whether there were more.
-/
structure Recent (α : Type) where
  entries : List α
  overflowed : Bool
  deriving DecidableEq, Repr

namespace Recent

def empty : Recent α := ⟨[], false⟩

/--
Further entries, oldest first. Those in excess of `limit` give way, from the oldest on.
-/
def pushAll (limit : Nat) (recent : Recent α) (entries : List α) : Recent α :=
  let all := recent.entries ++ entries
  let excess := all.length - limit
  { entries := all.drop excess, overflowed := recent.overflowed || 0 < excess }

theorem pushAll_append (limit : Nat) (recent : Recent α) (entries further : List α) :
    recent.pushAll limit (entries ++ further) =
      (recent.pushAll limit entries).pushAll limit further := by
  simp only [pushAll, ← List.append_assoc, List.length_append, List.length_drop, mk.injEq]
  rw [← List.drop_append_of_le_length (by simp), List.drop_drop, Bool.or_assoc,
    ← Bool.decide_or]
  exact ⟨by congr 1; omega, by congr 2; simp only [eq_iff_iff]; omega⟩

end Recent

def sampleLimit : Nat := 2048

def gestureLimit : Nat := 256

/--
The journal, with the times of its first and last entry, whether these are still kept or not.
-/
structure Journal where
  first : Option UInt64
  last : Option UInt64
  samples : Recent Sample
  gestures : Recent Gesture
  deriving DecidableEq, Repr

namespace Journal

def empty : Journal := ⟨none, none, .empty, .empty⟩

def mark (journal : Journal) (times : List UInt64) : Journal :=
  { journal with
    first := journal.first <|> times.head?
    last := times.getLast? <|> journal.last }

def addSamples (journal : Journal) (samples : List Sample) : Journal :=
  { journal.mark (samples.map Sample.time) with
    samples := journal.samples.pushAll sampleLimit samples }

def addGestures (journal : Journal) (gestures : List Gesture) : Journal :=
  { journal.mark (gestures.map Gesture.time) with
    gestures := journal.gestures.pushAll gestureLimit gestures }

def overflowed (journal : Journal) : Bool :=
  journal.samples.overflowed || journal.gestures.overflowed

def comment (journal : Journal) : String :=
  let flag (b : Bool) : Nat := if b then 1 else 0
  s!"# TRACE_DUMP start_ms={(journal.first.getD 0).toNat} end_ms={(journal.last.getD 0).toNat} " ++
    s!"pointers={journal.samples.entries.length} " ++
    s!"pointer_overflow={flag journal.samples.overflowed} " ++
    s!"gestures={journal.gestures.entries.length} " ++
    s!"gesture_overflow={flag journal.gestures.overflowed}\n"

def write (journal : Journal) : String :=
  journal.comment ++ (sampleHeader ++ "\n") ++
    String.join (journal.samples.entries.map sampleLine) ++ (gestureHeader ++ "\n") ++
    String.join (journal.gestures.entries.map gestureLine)

end Journal

end TouchPanel.Trace
