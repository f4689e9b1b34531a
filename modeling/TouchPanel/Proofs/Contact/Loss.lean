import TouchPanel.Proofs.Contact.Frame

/-!
This module contains what a tracker hears from the record that says that records were lost to the
next report, which is nothing.

Main statement: `Tracker.feed_loss`. Whatever comes in between, no frame ends, and the tracker is
afterwards as if nothing had come, apart from how often records were lost. That count never shows in
a frame (`Tracker.process_recount`).
-/

namespace TouchPanel

open Kernel (Record)

def Kernel.Record.isLoss (record : Record) : Bool :=
  record.kind == EventType.sync && record.code == Sync.dropped

namespace Tracker

def framesOf (tracker : Tracker) : List Record → List (Option (List Transition))
  | [] => []
  | record :: records =>
    (tracker.process record).2 :: (tracker.process record).1.framesOf records

def recount (tracker : Tracker) (count : UInt32) : Tracker :=
  { tracker with droppedFrames := count }

/--
A tracker that has heard so many times that records were lost, and awaits the next report.
-/
def losing (tracker : Tracker) (count : Nat) : Tracker :=
  { tracker.resetGroups with
    isDropped := true
    droppedFrames := UInt32.ofNatClamp (tracker.droppedFrames.toNat + count) }

variable {tracker : Tracker} {record : Record}

theorem toNat_ofNatClamp (n : Nat) : (UInt32.ofNatClamp n).toNat = min n (UInt32.size - 1) := by
  unfold UInt32.ofNatClamp
  split <;> rw [UInt32.toNat_ofNatLT] <;> omega

theorem feed_cons (tracker : Tracker) (record : Record) (records : List Record) :
    tracker.feed (record :: records) = (tracker.process record).1.feed records := rfl

theorem framesOf_cons (tracker : Tracker) (record : Record) (records : List Record) :
    tracker.framesOf (record :: records) =
      (tracker.process record).2 :: (tracker.process record).1.framesOf records := rfl

theorem framesOf_append (tracker : Tracker) (records more : List Record) :
    tracker.framesOf (records ++ more) =
      tracker.framesOf records ++ (tracker.feed records).framesOf more := by
  induction records generalizing tracker with
  | nil => rfl
  | cons record records ih =>
    rw [List.cons_append, framesOf_cons, ih]
    rfl

theorem updateSlot_recount (tracker : Tracker) (count : UInt32) (index : Nat)
    (change : Slot → Slot) :
    (tracker.recount count).updateSlot index change =
      (tracker.updateSlot index change).recount count := rfl

theorem updateContact_recount (tracker : Tracker) (count : UInt32) (change : Contact → Contact) :
    (tracker.recount count).updateContact change =
      (tracker.updateContact change).recount count := by
  obtain ⟨protocol, slots, current, group, isGroupOpen, isDropped, droppedFrames⟩ := tracker
  unfold updateContact
  cases protocol with
  | slotted => cases current <;> rfl
  | anonymous =>
    unfold recount
    dsimp only
    split <;> rfl
  | single => rfl

theorem onAxis_recount (tracker : Tracker) (count : UInt32) (code : UInt16) (value : Int32) :
    (tracker.recount count).onAxis code value = (tracker.onAxis code value).recount count := by
  have hprotocol : (tracker.recount count).protocol = tracker.protocol := rfl
  have hcurrent : (tracker.recount count).current = tracker.current := rfl
  unfold onAxis
  simp only [hprotocol, hcurrent, updateContact_recount, updateSlot_recount]
  generalize (if tracker.protocol = .single then _ else _) = xCode
  generalize (if tracker.protocol = .single then _ else _) = yCode
  generalize (if tracker.protocol = .single then _ else _) = pressureCode
  split
  . rfl
  . split
    . cases tracker.current <;> rfl
    . split
      . rfl
      . split
        . rfl
        . split <;> rfl

theorem onKey_recount (tracker : Tracker) (count : UInt32) (code : UInt16) (value : Int32) :
    (tracker.recount count).onKey code value = (tracker.onKey code value).recount count := by
  have hprotocol : (tracker.recount count).protocol = tracker.protocol := rfl
  unfold onKey
  rw [hprotocol]
  split <;> rfl

theorem onContactReport_recount (tracker : Tracker) (count : UInt32) :
    (tracker.recount count).onContactReport = tracker.onContactReport.recount count := by
  unfold onContactReport recount
  dsimp only
  split <;> rfl

theorem finishFrame_recount (tracker : Tracker) (count : UInt32) (time : UInt64) :
    (tracker.recount count).finishFrame time =
      ((tracker.finishFrame time).1.recount count, (tracker.finishFrame time).2) := by
  unfold finishFrame recount
  dsimp only
  split <;> rfl

theorem onSync_recount (tracker : Tracker) (count : UInt32) (code : UInt16) (time : UInt64) :
    ∃ next, (tracker.recount count).onSync code time =
      ((tracker.onSync code time).1.recount next, (tracker.onSync code time).2) := by
  have hdropped : (tracker.recount count).isDropped = tracker.isDropped := rfl
  unfold onSync
  rw [hdropped, onContactReport_recount, finishFrame_recount]
  split
  . exact ⟨_, rfl⟩
  . split
    . exact ⟨count, rfl⟩
    . split
      . split <;> exact ⟨count, rfl⟩
      . exact ⟨count, rfl⟩

theorem process_recount (tracker : Tracker) (count : UInt32) (record : Record) :
    ∃ next, (tracker.recount count).process record =
      ((tracker.process record).1.recount next, (tracker.process record).2) := by
  have hdropped : (tracker.recount count).isDropped = tracker.isDropped := rfl
  unfold process
  rw [hdropped, onAxis_recount, onKey_recount]
  split
  . apply onSync_recount
  . split
    . exact ⟨count, rfl⟩
    . split
      . exact ⟨count, rfl⟩
      . split <;> exact ⟨count, rfl⟩

theorem framesOf_recount (tracker : Tracker) (count : UInt32) (records : List Record) :
    (tracker.recount count).framesOf records = tracker.framesOf records := by
  induction records generalizing tracker count with
  | nil => rfl
  | cons record records ih =>
    obtain ⟨next, hnext⟩ := process_recount tracker count record
    rw [framesOf_cons, hnext, ih, framesOf_cons]

theorem perform_recount (tracker : Tracker) (count : UInt32) (op : Op) :
    ∃ next, (tracker.recount count).perform op =
      ((tracker.perform op).1.recount next, (tracker.perform op).2) := by
  cases op with
  | process record =>
    obtain ⟨next, hnext⟩ := process_recount tracker count record
    refine ⟨next, ?_⟩
    unfold perform
    dsimp only
    rw [hnext]
  | release time => exact ⟨count, rfl⟩

theorem performAll_recount (tracker : Tracker) (count : UInt32) (ops : List Op) :
    ((tracker.recount count).performAll ops).2 = (tracker.performAll ops).2 := by
  induction ops generalizing tracker count with
  | nil => rfl
  | cons op ops ih =>
    obtain ⟨next, hnext⟩ := perform_recount tracker count op
    unfold performAll
    dsimp only
    rw [hnext, ih]

theorem process_of_not_isReport (hreport : record.isReport = false) :
    (tracker.process record).2 = none := by
  unfold Kernel.Record.isReport at hreport
  unfold process
  split
  . next hkind =>
    simp only [hkind, beq_self_eq_true, Bool.true_and, beq_eq_false_iff_ne] at hreport
    unfold onSync
    rw [if_neg hreport]
    split
    . rfl
    . split <;> rfl
  . split
    . rfl
    . split
      . rfl
      . split <;> rfl

theorem framesOf_of_not_isReport {records : List Record}
    (hrecords : ∀ record ∈ records, record.isReport = false) :
    ∀ frame ∈ tracker.framesOf records, frame = none := by
  induction records generalizing tracker with
  | nil => exact nofun
  | cons record records ih =>
    rw [List.forall_mem_cons] at hrecords
    rw [framesOf_cons, List.forall_mem_cons]
    exact ⟨process_of_not_isReport hrecords.1, ih hrecords.2⟩

theorem onDropped_losing (tracker : Tracker) (count : Nat) :
    (tracker.losing count).onDropped = tracker.losing (count + 1) := by
  have hslots : (tracker.losing count).onDropped.slots = (tracker.losing (count + 1)).slots := by
    unfold losing onDropped resetGroups
    dsimp only
    rw [List.map_map]
    rfl
  have hcount : (tracker.losing count).onDropped.droppedFrames =
      (tracker.losing (count + 1)).droppedFrames := by
    apply UInt32.toNat_inj.1
    unfold losing onDropped
    dsimp only
    simp only [toNat_ofNatClamp]
    omega
  calc (tracker.losing count).onDropped
      = { tracker.losing (count + 1) with
          slots := (tracker.losing count).onDropped.slots
          droppedFrames := (tracker.losing count).onDropped.droppedFrames } := rfl
    _ = tracker.losing (count + 1) := by rw [hslots, hcount]

theorem process_of_isLoss (h : record.isLoss = true) :
    (tracker.process record).1 = tracker.onDropped := by
  unfold Kernel.Record.isLoss at h
  rw [Bool.and_eq_true, beq_iff_eq, beq_iff_eq] at h
  unfold process onSync
  rw [if_pos h.1, if_pos h.2]

theorem process_of_isReport (hdropped : tracker.isDropped = true) (h : record.isReport = true) :
    tracker.process record = ({ tracker with isDropped := false }, none) := by
  unfold Kernel.Record.isReport at h
  rw [Bool.and_eq_true, beq_iff_eq, beq_iff_eq] at h
  unfold process
  rw [if_pos h.1, h.2, onSync_report, if_pos hdropped]

theorem process_of_not_isLoss (hdropped : tracker.isDropped = true)
    (hreport : record.isReport = false) (hloss : record.isLoss = false) :
    (tracker.process record).1 = tracker := by
  unfold Kernel.Record.isReport at hreport
  unfold Kernel.Record.isLoss at hloss
  unfold process
  split
  . next hkind =>
    simp only [hkind, beq_self_eq_true, Bool.true_and, beq_eq_false_iff_ne] at hreport hloss
    unfold onSync
    rw [if_neg hloss, if_neg hreport, hdropped]
    simp
  . rfl

theorem process_losing (tracker : Tracker) (count : Nat) (hreport : record.isReport = false) :
    ((tracker.losing count).process record).1 =
      tracker.losing (count + if record.isLoss then 1 else 0) := by
  cases hloss : record.isLoss with
  | true => rw [process_of_isLoss hloss, onDropped_losing, if_pos rfl]
  | false => rw [process_of_not_isLoss rfl hreport hloss, if_neg Bool.false_ne_true, Nat.add_zero]

theorem feed_losing (tracker : Tracker) (count : Nat) {lost : List Record}
    (hlost : ∀ record ∈ lost, record.isReport = false) :
    (tracker.losing count).feed lost =
      tracker.losing (count + lost.countP Kernel.Record.isLoss) := by
  induction lost generalizing count with
  | nil => rfl
  | cons record lost ih =>
    rw [List.forall_mem_cons] at hlost
    rw [feed_cons, process_losing tracker count hlost.1, ih _ hlost.2, List.countP_cons,
      Nat.add_assoc, Nat.add_comm (List.countP ..)]

/--
From the record that says that records were lost to the next report nothing is heard but further
losses.
-/
theorem feed_of_isLoss (tracker : Tracker) {first last : Record} {lost : List Record}
    (hfirst : first.isLoss = true) (hlost : ∀ record ∈ lost, record.isReport = false)
    (hlast : last.isReport = true) :
    tracker.feed (first :: lost ++ [last]) =
        { tracker.losing ((first :: lost).countP Kernel.Record.isLoss) with isDropped := false } ∧
      ∀ frame ∈ tracker.framesOf (first :: lost ++ [last]), frame = none := by
  have hwindow : tracker.feed (first :: lost) =
      tracker.losing ((first :: lost).countP Kernel.Record.isLoss) := by
    have hnext : (tracker.process first).1 = tracker.losing 1 := process_of_isLoss hfirst
    rw [feed_cons, hnext, feed_losing tracker 1 hlost, List.countP_cons, if_pos hfirst,
      Nat.add_comm]
  have hend : (tracker.feed (first :: lost)).process last =
      ({ tracker.feed (first :: lost) with isDropped := false }, none) := by
    apply process_of_isReport _ hlast
    rw [hwindow]
    rfl
  have hreport : first.isReport = false := by
    unfold Kernel.Record.isLoss at hfirst
    unfold Kernel.Record.isReport
    rw [Bool.and_eq_true, beq_iff_eq, beq_iff_eq] at hfirst
    rw [hfirst.2]
    exact Bool.and_false _
  constructor
  . rw [feed_concat, hend, hwindow]
  . rw [framesOf_append, List.forall_mem_append]
    constructor
    . exact framesOf_of_not_isReport (List.forall_mem_cons.2 ⟨hreport, hlost⟩)
    . rw [framesOf_cons, hend, List.forall_mem_cons]
      exact ⟨rfl, nofun⟩

/--
Whatever comes between the record that says that records were lost and the next report, no frame
ends, and the tracker is afterwards as if nothing had come, apart from how often records were lost.
So all that it reports later is the same.
-/
theorem feed_loss (tracker : Tracker) {first last : Record} {lost : List Record}
    (hfirst : first.isLoss = true) (hlost : ∀ record ∈ lost, record.isReport = false)
    (hlast : last.isReport = true) :
    let long := first :: lost ++ [last]
    let short := [first, last]
    (∀ frame ∈ tracker.framesOf long, frame = none) ∧
      tracker.feed long =
        { tracker.feed short with
          droppedFrames := UInt32.ofNatClamp
            (tracker.droppedFrames.toNat + (first :: lost).countP Kernel.Record.isLoss) } ∧
      (∀ later, (tracker.feed long).framesOf later = (tracker.feed short).framesOf later) ∧
      ∀ ops, ((tracker.feed long).performAll ops).2 = ((tracker.feed short).performAll ops).2 := by
  intro long short
  obtain ⟨hlong, hframes⟩ := feed_of_isLoss tracker hfirst hlost hlast
  obtain ⟨hshort, -⟩ := feed_of_isLoss tracker hfirst (List.forall_mem_nil _) hlast
  have hrecount : tracker.feed long = (tracker.feed short).recount (UInt32.ofNatClamp
      (tracker.droppedFrames.toNat + (first :: lost).countP Kernel.Record.isLoss)) :=
    hlong.trans (congrArg (recount · _) hshort).symm
  refine ⟨hframes, hrecount, ?_, ?_⟩
  . intro later
    rw [hrecount, framesOf_recount]
  . intro ops
    rw [hrecount, performAll_recount]

/--
A contact has lifted within the frame when records are lost, twice, and what comes next would put
another one in its place.
-/
theorem feed_loss_twice :
    let lost (time : UInt64) : Record := ⟨time, Kernel.EventType.sync, Kernel.Sync.dropped, 0⟩
    let track (time : UInt64) (id : Int32) : Record :=
      ⟨time, Kernel.EventType.absolute, Kernel.Axis.trackingId, id⟩
    let tracker := (new .slotted 2).feed [track 0 4, .sync 1, track 2 Kernel.noTracking]
    let between : List Record := [track 4 7, lost 5, ⟨6, Kernel.EventType.sync, 2, 0⟩]
    (lost 3).isLoss = true ∧ (∀ record ∈ between, record.isReport = false) ∧
      (Record.sync 7).isReport = true ∧
      (tracker.feed (lost 3 :: between ++ [.sync 7])).droppedFrames = 2 ∧
      (tracker.feed (lost 3 :: between ++ [.sync 7])).framesOf [.sync 8] =
        (tracker.feed [lost 3, .sync 7]).framesOf [.sync 8] ∧
      (tracker.feed [lost 3, .sync 7]).framesOf [.sync 8] = [some [⟨.up, 0, 0, 0, none, 8⟩]] := by
  intro lost track tracker between
  have hfirst : (lost 3).isLoss = true := by decide
  have hbetween : ∀ record ∈ between, record.isReport = false := by decide
  have hlast : (Record.sync 7).isReport = true := by decide
  refine ⟨hfirst, hbetween, hlast, by decide, ?_, by decide⟩
  exact (feed_loss tracker hfirst hbetween hlast).2.2.1 [.sync 8]

end Tracker

end TouchPanel
