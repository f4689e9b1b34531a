import TouchPanel.Proofs.Producer.Delivery
import TouchPanel.Proofs.Trace.Samples

/-!
This module contains what a worker that reads a device delivers of the records of its feed, however
they are spread over fetches (`Kernel.Feed.Delivers`): a sample for each transition that its tracker
reports of them and of the release at the end, one by one (`Reader.reads_step`).
-/

namespace TouchPanel

/--
A feed brings some records, in parts of any size, and then a fault with which reading ends. Fetches
in between may bring nothing.
-/
inductive Kernel.Feed.Delivers : Feed → List Record → FetchFault → Prop where
  | final {fault : FetchFault} (hfault : fault.isPassing = false) : Delivers ⟨[], fault⟩ [] fault
  | fault {upcoming : List (Except FetchFault (List Record))} {final fault : FetchFault}
    (hfault : fault.isPassing = false) : Delivers ⟨.error fault :: upcoming, final⟩ [] fault
  | passing {upcoming : List (Except FetchFault (List Record))} {final fault : FetchFault}
    {records : List Record} (passing : FetchFault) (hpassing : passing.isPassing = true)
    (hrest : Delivers ⟨upcoming, final⟩ records fault) :
    Delivers ⟨.error passing :: upcoming, final⟩ records fault
  | batch {upcoming : List (Except FetchFault (List Record))} {final fault : FetchFault}
    {records : List Record} (batch : List Record)
    (hrest : Delivers ⟨upcoming, final⟩ records fault) :
    Delivers ⟨.ok batch :: upcoming, final⟩ (batch ++ records) fault

def Kernel.FetchFault.ending (fault : FetchFault) : Status :=
  if fault.isDisconnect then .disconnected else .failed

theorem Kernel.FetchFault.ending_eq (fault : FetchFault) :
    fault.ending =
      if fault = .numbered 19 ∨ fault = .numbered 6 ∨ fault = .numbered 5 then .disconnected
      else .failed := by
  unfold ending isDisconnect
  cases fault <;> simp [number?, or_assoc]

namespace Reader

open Kernel (FetchFault Record)

/--
The most steps that a worker takes to read a feed of so many records: it processes each of them and
delivers a frame after it, it fetches, and it delivers a frame at the end.
-/
def span (feed : Kernel.Feed) (count : Nat) : Nat :=
  (Tracker.frameCapacity + 1) * count + feed.upcoming.length + Tracker.frameCapacity + 2

/--
How far a worker has come: the transitions that are still ahead, a bound on the steps up to its end,
and the status of its producer.
-/
inductive Stage (fault : FetchFault) (reader : Reader) (ahead : List Transition) (left : Nat) :
    Status → Prop where
  | reading {rest : List Record} (hleaving : reader.isLeaving = false)
    (hended : reader.hasEnded = false) (hfeed : reader.feed.Delivers rest fault)
    (hahead : ahead = reader.transitions ++ reader.tracker.reported (reader.records ++ rest))
    (hleft : left = reader.transitions.length +
      span reader.feed (reader.records.length + rest.length)) :
    Stage fault reader ahead left .running
  | leaving (hleaving : reader.isLeaving = true) (hended : reader.hasEnded = false)
    (hrecords : reader.records = []) (hahead : ahead = reader.transitions)
    (hleft : left = reader.transitions.length + 1) : Stage fault reader ahead left fault.ending
  | ended (hended : reader.hasEnded = true) (hahead : ahead = []) (hleft : left = 0) :
    Stage fault reader ahead left fault.ending

structure Reads (calibration : Calibration) (fault : FetchFault) (reader : Reader)
    (ahead : List Transition) (left : Nat) (status : Status) : Prop where
  calibration : reader.calibration = calibration
  mouseSurface : reader.mouseSurface = none
  mouseEvent : reader.mouseEvent = none
  waiting : reader.waiting = []
  isWanted : reader.isWanted = true
  stage : reader.Stage fault ahead left status

variable {reader : Reader} {calibration : Calibration} {fault : FetchFault}
  {ahead : List Transition} {left : Nat} {status : Status} {inbox : Inbox}

theorem length_process_le (tracker : Tracker) (record : Record) :
    ((tracker.process record).2.getD []).length ≤ Tracker.frameCapacity := by
  rcases Tracker.process_cases tracker record with ⟨hframe, -⟩ | ⟨hframe, -⟩
  . rw [hframe]
    exact Nat.zero_le _
  . rw [hframe, Option.getD_some]
    exact List.length_take_le _ _

theorem length_release_le (tracker : Tracker) (time : UInt64) :
    (tracker.release time).2.length ≤ Tracker.frameCapacity :=
  List.length_take_le _ _

theorem step_of_hasEnded (hended : reader.hasEnded = true) (now : UInt64) (inbox : Inbox) :
    reader.step now inbox = (reader, inbox, none) := by
  unfold step
  rw [if_pos hended]

theorem step_of_waiting (hended : reader.hasEnded = false) (hwaiting : reader.waiting ≠ [])
    (now : UInt64) (inbox : Inbox) :
    reader.step now inbox =
      (reader.settle (inbox.enqueue reader.waiting).2, (inbox.enqueue reader.waiting).1, none) := by
  unfold step
  rw [hended, if_neg Bool.false_ne_true, if_pos (by simp [hwaiting])]

section

-- Everything that was delivered has gone in, so the worker turns to what is ahead.
variable (hended : reader.hasEnded = false) (hwaiting : reader.waiting = [])
include hended hwaiting

theorem step_of_mouseEvent {event : MouseEvent} (hmouse : reader.mouseEvent = some event)
    (now : UInt64) (inbox : Inbox) :
    reader.step now inbox =
      ({ reader with mouseEvent := none }.settle (inbox.push (.mouse event)).2,
        (inbox.push (.mouse event)).1, none) := by
  unfold step
  simp only [hended, hwaiting, hmouse]
  simp

variable (hmouse : reader.mouseEvent = none)
include hmouse

theorem step_of_transition {transition : Transition} {transitions : List Transition}
    (htransitions : reader.transitions = transition :: transitions) (now : UInt64)
    (inbox : Inbox) :
    let sample := reader.calibration.sample transition now
    reader.step now inbox =
      ({ reader with
          transitions
          mouseEvent :=
            if transition.slot = 0 then reader.mouseSurface.map sample.mouseEvent else none }.settle
          (inbox.push (.pointer sample)).2,
        (inbox.push (.pointer sample)).1, none) := by
  unfold step
  simp only [hended, hwaiting, hmouse, htransitions]
  simp

variable (htransitions : reader.transitions = [])
include htransitions

theorem step_of_record {record : Record} {records : List Record}
    (hrecords : reader.records = record :: records) (now : UInt64) (inbox : Inbox) :
    reader.step now inbox =
      ({ reader with
          tracker := (reader.tracker.process record).1
          records
          transitions := (reader.tracker.process record).2.getD [] }, inbox, none) := by
  unfold step
  simp only [hended, hwaiting, hmouse, htransitions, hrecords]
  simp

variable (hrecords : reader.records = [])
include hrecords

theorem step_of_isLeaving (hleaving : reader.isLeaving = true) (now : UInt64) (inbox : Inbox) :
    reader.step now inbox = ({ reader with hasEnded := true }, inbox, none) := by
  unfold step
  simp only [hended, hwaiting, hmouse, htransitions, hrecords, hleaving]
  simp

theorem step_of_isWanted (hleaving : reader.isLeaving = false) (hwanted : reader.isWanted = true)
    (now : UInt64) (inbox : Inbox) :
    reader.step now inbox = (reader.fetch.1, inbox, reader.fetch.2) := by
  unfold step
  simp only [hended, hwaiting, hmouse, htransitions, hrecords, hleaving, hwanted]
  simp

end

theorem step_transition (h : reader.Reads calibration fault ahead left status)
    (hended : reader.hasEnded = false) {transition : Transition} {transitions : List Transition}
    (htransitions : reader.transitions = transition :: transitions) (now : UInt64) :
    reader.step now inbox =
      ({ reader with transitions, mouseEvent := none }.settle
          (inbox.push (.pointer (calibration.sample transition now))).2,
        (inbox.push (.pointer (calibration.sample transition now))).1, none) := by
  rw [step_of_transition hended h.waiting h.mouseEvent htransitions]
  simp only [h.mouseSurface, h.calibration, Option.map_none, ite_self]

theorem reads_transition (h : reader.Reads calibration fault ahead left status)
    (hended : reader.hasEnded = false) {transition : Transition} {transitions : List Transition}
    (htransitions : reader.transitions = transition :: transitions) :
    ∃ rest left', ahead = transition :: rest ∧ left' < left ∧
      ({ reader with transitions, mouseEvent := none }.settle .done).Reads calibration fault rest
        left' status := by
  obtain ⟨hcalibration, hsurface, -, -, hwanted, hstage⟩ := h
  cases hstage with
  | reading hleaving _ hfeed hahead hleft =>
    rw [htransitions] at hahead hleft
    refine ⟨_, _, hahead, ?_, hcalibration, hsurface, rfl, rfl, hwanted,
      .reading hleaving hended hfeed rfl rfl⟩
    rw [hleft, List.length_cons]
    dsimp only [settle]
    omega
  | leaving hleaving _ hrecords hahead hleft =>
    rw [htransitions] at hahead hleft
    refine ⟨_, _, hahead, ?_, hcalibration, hsurface, rfl, rfl, hwanted,
      .leaving hleaving hended hrecords rfl rfl⟩
    rw [hleft, List.length_cons]
    exact Nat.lt_succ_self _
  | ended hagain =>
    rw [hended] at hagain
    contradiction

theorem reads_record (h : reader.Reads calibration fault ahead left status)
    (hended : reader.hasEnded = false) (htransitions : reader.transitions = []) {record : Record}
    {records : List Record} (hrecords : reader.records = record :: records) :
    ∃ left', left' < left ∧
      { reader with
        tracker := (reader.tracker.process record).1
        records
        transitions := (reader.tracker.process record).2.getD [] : Reader }.Reads calibration fault
          ahead left' status := by
  obtain ⟨hcalibration, hsurface, hmouse, hwaiting, hwanted, hstage⟩ := h
  cases hstage with
  | reading hleaving _ hfeed hahead hleft =>
    rw [htransitions, hrecords] at hahead hleft
    -- The frame of the record leads what is ahead, and the record pays for its length.
    refine ⟨_, ?_, hcalibration, hsurface, hmouse, hwaiting, hwanted,
      .reading hleaving hended hfeed hahead rfl⟩
    have hframe := length_process_le reader.tracker record
    have hcapacity : Tracker.frameCapacity = 20 := rfl
    unfold span at hleft ⊢
    rw [hcapacity] at hframe hleft ⊢
    rw [hleft, List.length_cons, List.length_nil]
    dsimp only
    omega
  | leaving _ _ hnone =>
    rw [hrecords] at hnone
    contradiction
  | ended hagain =>
    rw [hended] at hagain
    contradiction

theorem reads_end (h : reader.Reads calibration fault ahead left status)
    (hended : reader.hasEnded = false) (htransitions : reader.transitions = [])
    (hleaving : reader.isLeaving = true) :
    ∃ left', left' < left ∧
      { reader with hasEnded := true : Reader }.Reads calibration fault ahead left' status := by
  obtain ⟨hcalibration, hsurface, hmouse, hwaiting, hwanted, hstage⟩ := h
  cases hstage with
  | reading hagain =>
    rw [hleaving] at hagain
    contradiction
  | leaving _ _ _ hahead hleft =>
    rw [htransitions] at hahead hleft
    refine ⟨0, ?_, hcalibration, hsurface, hmouse, hwaiting, hwanted, .ended rfl hahead rfl⟩
    rw [hleft]
    exact Nat.succ_pos _
  | ended hagain =>
    rw [hended] at hagain
    contradiction

theorem reads_leave (h : reader.Reads calibration fault ahead left status) (feed : Kernel.Feed)
    (hended : reader.hasEnded = false) :
    ({ reader with feed }.leave).Reads calibration fault (reader.tracker.reported [])
      ((reader.tracker.release 0).2.length + 1) fault.ending := by
  rw [Tracker.reported_nil]
  exact ⟨h.calibration, h.mouseSurface, rfl, rfl, h.isWanted, .leaving rfl hended rfl rfl rfl⟩

theorem reads_fetch (h : reader.Reads calibration fault ahead left status)
    (hended : reader.hasEnded = false) (htransitions : reader.transitions = [])
    (hrecords : reader.records = []) (hleaving : reader.isLeaving = false) :
    ∃ left', left' < left ∧
      reader.fetch.1.Reads calibration fault ahead left' (reader.fetch.2.getD status) := by
  have hrelease := length_release_le reader.tracker 0
  cases h.stage with
  | reading _ _ hdelivers hahead hleft =>
    rw [htransitions, hrecords] at hahead hleft
    unfold span at hleft
    unfold fetch Kernel.Feed.fetch
    generalize reader.feed = feed at hdelivers hleft
    -- Reading ends only when no record is left in the feed.
    cases hdelivers with
    | final hfault =>
      dsimp only
      rw [hfault, if_neg Bool.false_ne_true, hahead]
      refine ⟨_, ?_, reads_leave h _ hended⟩
      omega
    | fault hfault =>
      dsimp only
      rw [hfault, if_neg Bool.false_ne_true, hahead]
      refine ⟨_, ?_, reads_leave h _ hended⟩
      omega
    | passing passing hpassing hrest =>
      dsimp only
      rw [if_pos hpassing]
      refine ⟨_, ?_, h.calibration, h.mouseSurface, h.mouseEvent, h.waiting, h.isWanted,
        .reading hleaving hended hrest ?_ rfl⟩
      . dsimp only [span]
        rw [hleft, htransitions, hrecords, List.length_cons]
        exact Nat.lt_succ_self _
      . rw [hahead, htransitions, hrecords]
    | batch batch hrest =>
      dsimp only
      refine ⟨_, ?_, h.calibration, h.mouseSurface, h.mouseEvent, h.waiting, h.isWanted,
        .reading hleaving hended hrest ?_ rfl⟩
      . simp only [span, hleft, htransitions, List.length_cons, List.length_append,
          List.length_nil, Nat.zero_add]
        omega
      . rw [hahead, htransitions]
        rfl
  | leaving hagain =>
    rw [hleaving] at hagain
    contradiction
  | ended hagain =>
    rw [hended] at hagain
    contradiction

theorem reads_step (h : reader.Reads calibration fault ahead left status)
    (hended : reader.hasEnded = false) (hopen : inbox.isOpen = true) (now : UInt64)
    (hstill : (reader.step now inbox).1.waiting = []) :
    ∃ rest left', left' < left ∧
      (reader.step now inbox).1.Reads calibration fault rest left'
        ((reader.step now inbox).2.2.getD status) ∧
      ((rest = ahead ∧ (reader.step now inbox).2.1 = inbox) ∨
        ∃ transition, ahead = transition :: rest ∧
          (inbox.push (.pointer (calibration.sample transition now))).2 = .done ∧
          (reader.step now inbox).2.1 =
            (inbox.push (.pointer (calibration.sample transition now))).1) := by
  cases htransitions : reader.transitions with
  | cons transition transitions =>
    rw [step_transition h hended htransitions, waiting_settle] at hstill
    have hdone : (inbox.push (.pointer (calibration.sample transition now))).2 = .done := by
      rcases inbox.push_cases (.pointer (calibration.sample transition now)) with
        ⟨hclosed, -⟩ | ⟨hdone, -⟩ | ⟨-, -, first, rest, hwaiting⟩
      . rw [hopen] at hclosed
        contradiction
      . exact hdone
      . rw [hwaiting] at hstill
        contradiction
    obtain ⟨rest, left', hahead, hleft, hreads⟩ := reads_transition h hended htransitions
    rw [step_transition h hended htransitions, hdone]
    exact ⟨rest, left', hleft, hreads, Or.inr ⟨transition, hahead, hdone, rfl⟩⟩
  | nil =>
    cases hrecords : reader.records with
    | cons record records =>
      obtain ⟨left', hleft, hreads⟩ := reads_record h hended htransitions hrecords
      rw [step_of_record hended h.waiting h.mouseEvent htransitions hrecords]
      exact ⟨ahead, left', hleft, hreads, Or.inl ⟨rfl, rfl⟩⟩
    | nil =>
      cases hleaving : reader.isLeaving with
      | true =>
        obtain ⟨left', hleft, hreads⟩ := reads_end h hended htransitions hleaving
        rw [step_of_isLeaving hended h.waiting h.mouseEvent htransitions hrecords hleaving]
        exact ⟨ahead, left', hleft, hreads, Or.inl ⟨rfl, rfl⟩⟩
      | false =>
        obtain ⟨left', hleft, hreads⟩ := reads_fetch h hended htransitions hrecords hleaving
        rw [step_of_isWanted hended h.waiting h.mouseEvent htransitions hrecords hleaving
          h.isWanted]
        exact ⟨ahead, left', hleft, hreads, Or.inl ⟨rfl, rfl⟩⟩

theorem reads_new (capabilities : Device.Capabilities) {feed : Kernel.Feed} {records : List Record}
    (hfeed : feed.Delivers records fault) :
    (Reader.new feed capabilities none).Reads (.ofCapabilities capabilities) fault
      ((Tracker.new capabilities.protocol capabilities.slotCount).reported records)
      (span feed records.length) .running := by
  refine ⟨rfl, rfl, rfl, rfl, rfl, .reading rfl rfl hfeed rfl ?_⟩
  dsimp only [new]
  rw [List.length_nil, List.length_nil, Nat.zero_add, Nat.zero_add]

theorem reads_of_left_eq_zero (h : reader.Reads calibration fault ahead 0 status) :
    reader.hasEnded = true ∧ ahead = [] ∧ status = fault.ending := by
  cases h.stage with
  | reading _ _ _ _ hleft => contradiction
  | leaving _ _ _ _ hleft => contradiction
  | ended hended hahead => exact ⟨hended, hahead, rfl⟩

theorem left_of_hasEnded (h : reader.Reads calibration fault ahead left status)
    (hended : reader.hasEnded = true) : left = 0 := by
  cases h.stage with
  | reading _ hgoing =>
    rw [hended] at hgoing
    contradiction
  | leaving _ hgoing =>
    rw [hended] at hgoing
    contradiction
  | ended _ _ hleft => exact hleft

end Reader

end TouchPanel
