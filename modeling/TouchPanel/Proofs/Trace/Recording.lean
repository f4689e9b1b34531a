import Mathlib.Data.List.Pairwise
import TouchPanel.Proofs.Trace.Replay
import TouchPanel.Proofs.Trace.Samples

/-!
This module contains what holds of the samples of a recording of several contacts, whatever its
bytes are (`Trace.whole_samplesOfDump`). The guard passes all of them, and no contact is down after
the last one. Their ids are those of slots, their times those of records, and a replay of them
leaves no gesture open.
-/

namespace TouchPanel

theorem Calibration.time_sample (calibration : Calibration) (transition : Transition)
    (time : UInt64) : (calibration.sample transition time).time = time := rfl

namespace Trace

open Gesture (Classifier IsWord)
open Kernel (Layout Record)

variable {capabilities : Device.Capabilities} {records : List Record} {first last : Record}

def millis (first record : Record) : UInt64 := Time.elapsed first.time record.time / 1000

theorem toNat_millis (first record : Record) :
    (millis first record).toNat = (record.time.toNat - first.time.toNat) / 1000 := by
  unfold millis
  rw [UInt64.toNat_div, Time.toNat_elapsed]
  rfl

theorem millis_le_millis {record later : Record} (h : record.time ≤ later.time) :
    millis first record ≤ millis first later := by
  rw [UInt64.le_iff_toNat_le] at h ⊢
  rw [toNat_millis, toNat_millis]
  omega

theorem frames_sublist (tracker : Tracker) (records : List Record) :
    ((frames tracker records).1.map Prod.fst).Sublist records := by
  induction records generalizing tracker with
  | nil => exact .slnil
  | cons record records ih =>
    rw [Tracker.frames_cons]
    cases (tracker.process record).2 with
    | none => exact (ih _).cons record
    | some frame => exact (ih _).cons_cons record

/--
The samples of a recording come in groups, one for each frame and one for the release, and those of
a group are taken at the time of its record.
-/
theorem exists_groups (capabilities : Device.Capabilities) (first : Record) (rest : List Record) :
    ∃ groups : List (Record × List Transition),
      (groups.map Prod.fst).Sublist
        (first :: rest ++ [(first :: rest).getLast (List.cons_ne_nil first rest)]) ∧
      samplesOfRecords capabilities (first :: rest) = groups.flatMap fun group =>
        group.2.map fun transition =>
          (Calibration.ofCapabilities capabilities).sample transition (millis first group.1) := by
  unfold samplesOfRecords
  rw [List.head?_cons, List.getLast?_eq_some_getLast (List.cons_ne_nil first rest)]
  refine ⟨_, ?_, rfl⟩
  rw [List.map_append]
  exact (frames_sublist _ (first :: rest)).append_right _

theorem time_of_mem_samplesOfRecords {sample : Sample}
    (hmem : sample ∈ samplesOfRecords capabilities records) :
    ∃ first ∈ records.head?, ∃ record ∈ records,
      sample.time.toNat = (record.time.toNat - first.time.toNat) / 1000 := by
  cases records with
  | nil => contradiction
  | cons first rest =>
    obtain ⟨groups, hrecords, hsamples⟩ := exists_groups capabilities first rest
    rw [hsamples] at hmem
    obtain ⟨group, hgroup, hmem⟩ := List.mem_flatMap.1 hmem
    obtain ⟨transition, -, rfl⟩ := List.mem_map.1 hmem
    refine ⟨first, rfl, group.1, ?_, toNat_millis first group.1⟩
    rcases List.mem_append.1 (hrecords.mem (List.mem_map_of_mem hgroup)) with hrecord | hlast
    . exact hrecord
    . rw [List.mem_singleton.1 hlast]
      apply List.getLast_mem

theorem pairwise_time_samplesOfRecords (h : records.Pairwise fun a b => a.time ≤ b.time) :
    (samplesOfRecords capabilities records).Pairwise fun a b => a.time ≤ b.time := by
  cases records with
  | nil => exact List.Pairwise.nil
  | cons first rest =>
    obtain ⟨groups, hrecords, hsamples⟩ := exists_groups capabilities first rest
    have hgroups : (groups.map Prod.fst).Pairwise fun a b => a.time ≤ b.time := by
      apply List.Pairwise.sublist hrecords
      rw [List.pairwise_append]
      refine ⟨h, List.pairwise_singleton .., ?_⟩
      intro record hrecord last hlast
      rw [List.mem_singleton.1 hlast]
      exact h.rel_getLast_of_rel_getLast_getLast hrecord (UInt64.le_refl _)
    rw [hsamples, List.pairwise_flatMap]
    constructor
    . intro group _
      rw [List.pairwise_map]
      simp only [Calibration.time_sample]
      exact List.pairwise_of_forall fun _ _ => UInt64.le_refl _
    . apply (List.pairwise_map.1 hgroups).imp
      intro group later hle a ha b hb
      obtain ⟨_, -, rfl⟩ := List.mem_map.1 ha
      obtain ⟨_, -, rfl⟩ := List.mem_map.1 hb
      rw [Calibration.time_sample, Calibration.time_sample]
      exact millis_le_millis hle

theorem key_of_mem_samplesOfRecords (hprotocol : capabilities.protocol.isMultiTouch)
    (hmulti : capabilities.isMultiTouch = true) {sample : Sample}
    (hmem : sample ∈ samplesOfRecords capabilities records) :
    sample.origin = .touch ∧ sample.id.toNat < min (max capabilities.slotCount 1) maxSlots := by
  have hmark : sample.untimed ∈ (samplesOfRecords capabilities records).map Sample.untimed :=
    List.mem_map_of_mem hmem
  rw [map_untimed_samplesOfRecords] at hmark
  obtain ⟨transition, hreported, hsample⟩ := List.mem_map.1 hmark
  have hkey : sample.key = ⟨.touch, UInt32.ofNat transition.slot⟩ := by
    rw [← @Calibration.key_mark (.ofCapabilities capabilities) hmulti transition, hsample]
    rfl
  have hslot := Tracker.slot_lt_of_mem_reported hreported
  rw [Tracker.length_slots_new hprotocol] at hslot
  obtain ⟨horigin, hid⟩ := Key.mk.inj hkey
  refine ⟨horigin, ?_⟩
  rw [hid, UInt32.toNat_ofNat_of_lt']
  . exact hslot
  . apply Nat.lt_of_lt_of_le hslot
    apply Nat.le_trans (Nat.min_le_right ..)
    decide

/--
Whatever bytes a recording of several contacts consists of, the guard accepts each of its samples as
it is, and no contact is down after them. Their ids are below the number of slots, and their times
are whole milliseconds since the first record, in order if the times of the records are. A replay
leaves no gesture open: it reports clicks, holds and drags that end.
-/
theorem whole_samplesOfDump {capabilities : Device.Capabilities}
    (hprotocol : capabilities.protocol.isMultiTouch) (hmulti : capabilities.isMultiTouch = true)
    (layout : Layout) (bytes : List UInt8) (reference : Reference) :
    let records := layout.decodeAll bytes
    let samples := samplesOfDump layout capabilities bytes
    let replayed := (Classifier.new reference).performAll (calls samples)
    (Guard.empty.verdicts samples = samples.map .accepted ∧
      (Guard.empty.run samples).1 = .empty) ∧
    (∀ sample ∈ samples, sample.id.toNat < min (max capabilities.slotCount 1) maxSlots) ∧
    ((records.Pairwise fun a b => a.time ≤ b.time) →
      samples.Pairwise fun a b => a.time ≤ b.time) ∧
    (∀ sample ∈ samples, ∃ first ∈ records.head?, ∃ record ∈ records,
      sample.time.toNat = (record.time.toNat - first.time.toNat) / 1000) ∧
    (replay reference samples = replayed.2 ∧ replayed.1.phase = .idle ∧
      IsWord ((replay reference samples).map Gesture.kind)) := by
  intro records samples replayed
  have hclosed : ∀ key, Stroke.Closed (Stroke.ofKey key samples) :=
    closed_samplesOfRecords hprotocol hmulti records
  refine ⟨?_, ?_, pairwise_time_samplesOfRecords, ?_, ?_⟩
  . have hstrokes : ∀ key, (Stroke.run (Guard.empty.isDown key) (Stroke.ofKey key samples)) =
        some false := hclosed
    obtain ⟨hverdicts, -, hlast⟩ := @Guard.run_of_strokes .empty samples fun key => by
      rw [hstrokes]
      rfl
    refine ⟨hverdicts, Guard.eq_empty_of_isDown ?_⟩
    intro key
    exact (Option.some.inj ((hstrokes key).symm.trans (hlast key))).symm
  . intro sample hmem
    exact (key_of_mem_samplesOfRecords hprotocol hmulti hmem).2
  . intro sample hmem
    exact time_of_mem_samplesOfRecords hmem
  . have hphases : ∀ id, Stroke.Closed (Classifier.phasesOf id (calls samples)) := by
      intro id
      rw [phasesOf_calls]
      . exact hclosed ⟨.touch, id⟩
      . intro sample hmem
        exact (key_of_mem_samplesOfRecords hprotocol hmulti hmem).1
    obtain ⟨hidle, hword⟩ := Classifier.isWord_of_closed reference hphases
    rw [replay_eq_performAll]
    exact ⟨rfl, hidle, hword⟩

/--
A contact goes down, and the recording breaks off in the middle of a record.
-/
theorem whole_samplesOfDump_truncated :
    let capabilities := Device.Capabilities.recordedPanel 100 100 2
    let down : Record := ⟨1000000, Kernel.EventType.absolute, Kernel.Axis.trackingId, 7⟩
    let sync : Record := .sync 1002500
    let bytes := Layout.compact.encode down ++ Layout.compact.encode sync ++ [1, 0, 0]
    let samples := samplesOfDump .compact capabilities bytes
    samples.map (fun sample => (sample.phase, sample.time)) = [(.down, 2), (.up, 2)] ∧
      Guard.empty.verdicts samples = samples.map .accepted ∧
      (samples.Pairwise fun a b => a.time ≤ b.time) ∧
      (replay .standard samples).map Gesture.kind = [.click] ∧
      IsWord ((replay .standard samples).map Gesture.kind) := by
  intro capabilities down sync bytes samples
  have hrecords : Layout.compact.decodeAll bytes = [down, sync] := by
    rw [Layout.decodeAll_of_decode? (by decide +kernel : _ = some down),
      Layout.decodeAll_of_decode? (by decide +kernel : _ = some sync),
      Layout.decodeAll_of_decode?_eq_none (by decide +kernel)]
  have hmulti : capabilities.isMultiTouch = true := by decide
  obtain ⟨⟨hverdicts, -⟩, -, hordered, -, -, -, hword⟩ :=
    whole_samplesOfDump rfl hmulti .compact bytes .standard
  have hsamples : samples = samplesOfRecords capabilities [down, sync] := by
    rw [← hrecords]
    rfl
  rw [hrecords] at hordered
  refine ⟨?_, hverdicts, hordered (by decide), ?_, hword⟩
  . rw [hsamples]
    decide
  . rw [hsamples]
    decide +kernel

end Trace

end TouchPanel
