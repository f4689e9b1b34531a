import Mathlib.Data.List.DropRight
import TouchPanel.Trace.Journal

/-!
This module contains what a journal has kept after any samples, gestures and clearings
(`Journal.keeps_performAll`): the newest entries of each kind, whether there were more, and the
times of the first and the last entry, which it keeps even when the entries themselves are gone.
-/

namespace TouchPanel.Trace

theorem Recent.pushAll_empty {α : Type} (limit : Nat) (entries : List α) :
    Recent.empty.pushAll limit entries =
      ⟨entries.rtake limit, decide (limit < entries.length)⟩ := by
  unfold pushAll empty List.rtake
  simp only [List.nil_append, Bool.false_or, Nat.sub_pos_iff_lt]

example : Recent.empty.pushAll 2 [1, 2, 3] = ⟨[2, 3], true⟩ := by decide

theorem length_rtake {α : Type} (entries : List α) (count : Nat) :
    (entries.rtake count).length = min entries.length count := by
  unfold List.rtake
  rw [List.length_drop]
  omega

namespace Journal

inductive Op where
  | sample (sample : Sample)
  | gesture (gesture : Gesture)
  | clear
  deriving DecidableEq, Repr

namespace Op

def sample? : Op → Option Sample
  | sample s => some s
  | _ => none

def gesture? : Op → Option Gesture
  | gesture g => some g
  | _ => none

def time? : Op → Option UInt64
  | sample s => some s.time
  | gesture g => some g.time
  | clear => none

def sinceClear (ops : List Op) : List Op :=
  ops.rtakeWhile (· ≠ .clear)

end Op

def perform (journal : Journal) : Op → Journal
  | .sample s => journal.addSamples [s]
  | .gesture g => journal.addGestures [g]
  | .clear => .empty

def performAll (journal : Journal) (ops : List Op) : Journal :=
  ops.foldl perform journal

/--
What a journal has after some entries, from an empty one on.
-/
structure Keeps (journal : Journal) (entries : List Op) : Prop where
  first : journal.first = (entries.filterMap Op.time?).head?
  last : journal.last = (entries.filterMap Op.time?).getLast?
  samples : journal.samples = Recent.empty.pushAll sampleLimit (entries.filterMap Op.sample?)
  gestures : journal.gestures = Recent.empty.pushAll gestureLimit (entries.filterMap Op.gesture?)

variable {journal : Journal} {entries : List Op}

theorem keeps_empty : Keeps empty [] := by
  constructor
  . rfl
  . rfl
  . rw [List.filterMap_nil, Recent.pushAll_empty]
    rfl
  . rw [List.filterMap_nil, Recent.pushAll_empty]
    rfl

theorem mark_of_first {times : List UInt64} (h : journal.first = times.head?) (time : UInt64) :
    (journal.mark [time]).first = (times ++ [time]).head? ∧
      (journal.mark [time]).last = (times ++ [time]).getLast? := by
  rw [List.head?_append, List.getLast?_concat, ← h]
  exact ⟨Option.orElse_eq_or, rfl⟩

theorem keeps_addSamples (h : Keeps journal entries) (s : Sample) :
    Keeps (journal.addSamples [s]) (entries ++ [.sample s]) := by
  obtain ⟨hfirst, hlast⟩ := mark_of_first h.first s.time
  have htime : [Op.sample s].filterMap Op.time? = [s.time] := rfl
  have hsample : [Op.sample s].filterMap Op.sample? = [s] := rfl
  have hgesture : [Op.sample s].filterMap Op.gesture? = [] := rfl
  constructor
  . rw [List.filterMap_append, htime]
    exact hfirst
  . rw [List.filterMap_append, htime]
    exact hlast
  . rw [List.filterMap_append, hsample, Recent.pushAll_append, ← h.samples]
    rfl
  . rw [List.filterMap_append, hgesture, List.append_nil]
    exact h.gestures

theorem keeps_addGestures (h : Keeps journal entries) (g : Gesture) :
    Keeps (journal.addGestures [g]) (entries ++ [.gesture g]) := by
  obtain ⟨hfirst, hlast⟩ := mark_of_first h.first g.time
  have htime : [Op.gesture g].filterMap Op.time? = [g.time] := rfl
  have hsample : [Op.gesture g].filterMap Op.sample? = [] := rfl
  have hgesture : [Op.gesture g].filterMap Op.gesture? = [g] := rfl
  constructor
  . rw [List.filterMap_append, htime]
    exact hfirst
  . rw [List.filterMap_append, htime]
    exact hlast
  . rw [List.filterMap_append, hsample, List.append_nil]
    exact h.samples
  . rw [List.filterMap_append, hgesture, Recent.pushAll_append, ← h.gestures]
    rfl

theorem keeps_performAll_sinceClear (ops : List Op) :
    Keeps (empty.performAll ops) (Op.sinceClear ops) := by
  induction ops using List.reverseRecOn with
  | nil => exact keeps_empty
  | append_singleton ops op ih =>
    unfold performAll Op.sinceClear at ih ⊢
    rw [List.foldl_append]
    cases op with
    | sample s =>
      rw [List.rtakeWhile_concat_pos _ _ _ (by simp)]
      exact keeps_addSamples ih s
    | gesture g =>
      rw [List.rtakeWhile_concat_pos _ _ _ (by simp)]
      exact keeps_addGestures ih g
    | clear =>
      rw [List.rtakeWhile_concat_neg _ _ _ (by simp)]
      exact keeps_empty

/--
Whatever is done with a journal, it has the newest samples and the newest gestures since it was last
cleared, as many of each as it keeps, in order. It says of each kind whether there were more, and
when the first and the last entry of either kind came. Its text says so too.
-/
theorem keeps_performAll (ops : List Op) :
    let entries := Op.sinceClear ops
    let samples := entries.filterMap Op.sample?
    let gestures := entries.filterMap Op.gesture?
    let times := entries.filterMap Op.time?
    let began := (times.head?.getD 0).toNat
    let ended := (times.getLast?.getD 0).toNat
    let flag (b : Bool) : Nat := if b then 1 else 0
    let journal := empty.performAll ops
    journal.samples.entries = samples.rtake 2048 ∧
      journal.gestures.entries = gestures.rtake 256 ∧
      (journal.samples.overflowed = true ↔ 2048 < samples.length) ∧
      (journal.gestures.overflowed = true ↔ 256 < gestures.length) ∧
      (journal.overflowed = true ↔ 2048 < samples.length ∨ 256 < gestures.length) ∧
      journal.first = times.head? ∧
      journal.last = times.getLast? ∧
      journal.write =
        s!"# TRACE_DUMP start_ms={began} end_ms={ended} " ++
          s!"pointers={min samples.length 2048} " ++
          s!"pointer_overflow={flag (2048 < samples.length)} " ++
          s!"gestures={min gestures.length 256} " ++
          s!"gesture_overflow={flag (256 < gestures.length)}\n" ++
          (sampleHeader ++ "\n") ++ String.join ((samples.rtake 2048).map sampleLine) ++
          (gestureHeader ++ "\n") ++ String.join ((gestures.rtake 256).map gestureLine) := by
  intro entries samples gestures times began ended flag journal
  obtain ⟨hfirst, hlast, hsamples, hgestures⟩ := keeps_performAll_sinceClear ops
  replace hsamples : journal.samples =
      ⟨samples.rtake 2048, decide (2048 < samples.length)⟩ :=
    hsamples.trans (Recent.pushAll_empty sampleLimit samples)
  replace hgestures : journal.gestures =
      ⟨gestures.rtake 256, decide (256 < gestures.length)⟩ :=
    hgestures.trans (Recent.pushAll_empty gestureLimit gestures)
  refine ⟨?_, ?_, ?_, ?_, ?_, hfirst, hlast, ?_⟩
  . rw [hsamples]
  . rw [hgestures]
  . rw [hsamples, decide_eq_true_iff]
  . rw [hgestures, decide_eq_true_iff]
  . unfold overflowed
    rw [hsamples, hgestures, Bool.or_eq_true, decide_eq_true_iff, decide_eq_true_iff]
  . unfold write comment
    rw [hsamples, hgestures, hfirst, hlast]
    dsimp only
    rw [length_rtake, length_rtake]

end Journal

end TouchPanel.Trace
