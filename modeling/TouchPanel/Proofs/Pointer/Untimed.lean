import TouchPanel.Proofs.Pointer.Guard

/-!
This module contains samples and guards apart from their times. Main statement:
`Guard.judge_untimed`. A guard decides alike whatever the times are.
-/

namespace TouchPanel

def Sample.untimed (sample : Sample) : Sample := { sample with time := 0 }

theorem Sample.key_untimed (sample : Sample) : sample.untimed.key = sample.key := rfl

theorem Stroke.ofKey_map_untimed (key : Key) (samples : List Sample) :
    ofKey key (samples.map Sample.untimed) = ofKey key samples := by
  unfold ofKey
  rw [List.filter_map, List.map_map]
  rfl

namespace Guard

def untimed (guard : Guard) : Guard :=
  ⟨guard.samples.map Sample.untimed, List.pairwise_map.2 guard.ascending⟩

theorem eq_of_samples {guard next : Guard} (h : guard.samples = next.samples) : guard = next := by
  obtain ⟨samples, hsamples⟩ := guard
  obtain ⟨others, hothers⟩ := next
  obtain rfl : samples = others := h
  rfl

theorem place_untimed (sample : Sample) (samples : List Sample) :
    place sample.untimed (samples.map Sample.untimed) =
      (place sample samples).map Sample.untimed := by
  induction samples with
  | nil => rfl
  | cons last rest ih =>
    rw [List.map_cons]
    unfold place
    rw [Sample.key_untimed, Sample.key_untimed, ih]
    split
    . rfl
    . split <;> rfl

theorem find?_untimed (guard : Guard) (key : Key) :
    guard.untimed.find? key = (guard.find? key).map Sample.untimed := by
  unfold find? untimed
  rw [List.find?_map]
  rfl

theorem put_untimed (guard : Guard) (sample : Sample) :
    guard.untimed.put sample.untimed = (guard.put sample).untimed :=
  eq_of_samples (place_untimed sample guard.samples)

theorem drop_untimed (guard : Guard) (key : Key) :
    guard.untimed.drop key = (guard.drop key).untimed := by
  apply eq_of_samples
  unfold drop untimed
  dsimp only
  rw [List.filter_map]
  rfl

theorem judge_untimed (guard : Guard) (sample : Sample) :
    (guard.untimed.judge sample.untimed).1 = (guard.judge sample).1.untimed ∧
      (guard.untimed.judge sample.untimed).2.samples =
        (guard.judge sample).2.samples.map Sample.untimed := by
  have hphase : sample.untimed.phase = sample.phase := rfl
  unfold judge
  rw [Sample.key_untimed, find?_untimed, hphase, put_untimed, drop_untimed]
  cases sample.phase <;> cases guard.find? sample.key <;> exact ⟨rfl, rfl⟩

end Guard

end TouchPanel
