import TouchPanel.Proofs.Gesture.Grammar
import TouchPanel.Proofs.Pointer.Guard
import TouchPanel.Trace.Replay

/-!
This module contains a replay as the calls that it makes of a classifier
(`Trace.replay_eq_performAll`).
-/

namespace TouchPanel

namespace Gesture.Classifier

theorem heard_perform (classifier : Classifier) (call : Call) :
    (classifier.perform call).1.heard = classifier.heard := by
  cases call <;> rfl

theorem run_map_heard (classifier : Classifier) (calls : List Call) :
    Trace.run classifier (calls.map classifier.heard) = (classifier.performAll calls).2 := by
  induction calls generalizing classifier with
  | nil => rfl
  | cons call calls ih =>
    rw [List.map_cons]
    unfold Trace.run performAll
    dsimp only
    rw [← perform_eq, ← ih, heard_perform]

theorem phasesOf_append (id : UInt32) (calls more : List Call) :
    phasesOf id (calls ++ more) = phasesOf id calls ++ phasesOf id more := by
  induction calls with
  | nil => rfl
  | cons call calls ih =>
    rw [List.cons_append]
    cases call with
    | handle sample =>
      simp only [phasesOf, ih]
      split <;> rfl
    | tick => exact ih

end Gesture.Classifier

namespace Trace

open Gesture (Classifier)
open Gesture.Classifier (Call)

def calls (samples : List Sample) : List Call :=
  samples.flatMap (fun sample => [.tick sample.time, .handle sample]) ++
    (samples.getLast?.map fun last =>
      .tick (Time.after last.time Gesture.holdThreshold)).toList

theorem replay_eq_performAll (reference : Reference) (samples : List Sample) :
    replay reference samples = ((Classifier.new reference).performAll (calls samples)).2 := by
  unfold replay
  dsimp only
  rw [← Classifier.run_map_heard]
  unfold calls signals closing
  rw [List.map_append, List.map_flatMap, Option.toList_map, Option.toList_map, List.map_map]
  rfl

theorem phasesOf_calls {samples : List Sample}
    (horigin : ∀ sample ∈ samples, sample.origin = .touch) (id : UInt32) :
    Classifier.phasesOf id (calls samples) = Stroke.ofKey ⟨.touch, id⟩ samples := by
  have hclosing : Classifier.phasesOf id (samples.getLast?.map fun last =>
      Call.tick (Time.after last.time Gesture.holdThreshold)).toList = [] := by
    cases samples.getLast? <;> rfl
  unfold calls
  rw [Classifier.phasesOf_append, hclosing, List.append_nil]
  clear hclosing
  induction samples with
  | nil => rfl
  | cons sample rest ih =>
    rw [List.forall_mem_cons] at horigin
    have hkey : sample.key = ⟨.touch, id⟩ ↔ sample.id = id := by
      unfold Sample.key
      rw [horigin.1, Key.mk.injEq]
      simp
    rw [Stroke.ofKey_cons, ← ih horigin.2]
    simp only [hkey]
    rfl

end Trace

end TouchPanel
