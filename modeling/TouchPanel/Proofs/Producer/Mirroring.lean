import TouchPanel.Proofs.Device.Survey
import TouchPanel.Proofs.Producer.Reading
import TouchPanel.Proofs.Producer.Waiting

/-!
This module contains what a worker delivers that drives the mouse: its samples, each of the primary
contact with its mouse event behind it (`Event.mirrored`), except that the mouse event of the last
sample may still be owed (`Reader.mirrors_step`).
-/

namespace TouchPanel

open Stroke (ofKey)

def Key.primary : Key := ⟨.touch, 0⟩

namespace Event

/--
Samples, each of the primary contact with the mouse event that it stands for right behind it.
-/
def mirrored (surface : Reference) (samples : List Sample) : List Event :=
  samples.flatMap fun sample =>
    .pointer sample :: if sample.key = .primary then [.mouse (sample.mouseEvent surface)] else []

def leftPhase? : Event → Option Phase
  | .mouse event =>
    match event.action with
    | .press .left => some .down
    | .motion => some .move
    | .release .left => some .up
    | _ => none
  | _ => none

def leftPhases (events : List Event) : List Phase := events.filterMap leftPhase?

variable (surface : Reference) (samples more : List Sample)

theorem mirrored_append :
    mirrored surface (samples ++ more) = mirrored surface samples ++ mirrored surface more := by
  unfold mirrored
  rw [List.flatMap_append]

theorem mirrored_cons (sample : Sample) :
    mirrored surface (sample :: samples) =
      .pointer sample ::
        (if sample.key = .primary then [.mouse (sample.mouseEvent surface)] else []) ++
          mirrored surface samples := by
  unfold mirrored
  rw [List.flatMap_cons]

theorem samples_mirrored : Event.samples (mirrored surface samples) = samples := by
  induction samples with
  | nil => rfl
  | cons sample samples ih =>
    rw [mirrored_cons, samples_append, ih]
    split <;> rfl

theorem leftPhases_append (events later : List Event) :
    leftPhases (events ++ later) = leftPhases events ++ leftPhases later := by
  unfold leftPhases
  rw [List.filterMap_append]

theorem leftPhases_map_pointer : leftPhases (samples.map .pointer) = [] := by
  unfold leftPhases
  rw [List.filterMap_map]
  exact List.filterMap_none samples

theorem leftPhases_mirrored : leftPhases (mirrored surface samples) = ofKey .primary samples := by
  induction samples with
  | nil => rfl
  | cons sample samples ih =>
    rw [mirrored_cons, leftPhases_append, ih, Stroke.ofKey_cons]
    split
    . unfold leftPhases Sample.mouseEvent
      cases sample.phase <;> rfl
    . rfl

theorem length_mirrored :
    (mirrored surface samples).length = samples.length + (ofKey .primary samples).length := by
  induction samples with
  | nil => rfl
  | cons sample samples ih =>
    rw [mirrored_cons, List.length_append, ih, Stroke.ofKey_cons]
    split
    . simp only [List.length_cons, List.length_nil]
      omega
    . simp only [List.length_cons, List.length_nil]
      omega

theorem mirrored_of_ofKey_eq_nil (h : ofKey .primary samples = []) :
    mirrored surface samples = samples.map .pointer := by
  induction samples with
  | nil => rfl
  | cons sample samples ih =>
    rw [Stroke.ofKey_cons] at h
    rw [mirrored_cons]
    split
    . next hprimary =>
      rw [if_pos hprimary] at h
      contradiction
    . next hother =>
      rw [if_neg hother] at h
      rw [ih h]
      rfl

theorem map_pointer_eq_append_mirrored_iff (owed : List Event) :
    samples.map .pointer = owed ++ mirrored surface samples ↔
      owed = [] ∧ ofKey .primary samples = [] := by
  constructor
  . intro h
    have hlength := congrArg List.length h
    rw [List.length_map, List.length_append, length_mirrored] at hlength
    constructor
    . apply List.length_eq_zero_iff.1
      omega
    . apply List.length_eq_zero_iff.1
      omega
  . rintro ⟨rfl, hnone⟩
    exact (mirrored_of_ofKey_eq_nil surface samples hnone).symm

end Event

namespace Calibration

theorem key_sample_eq_primary_iff {calibration : Calibration}
    (hmulti : calibration.isMultiTouch = true) {transition : Transition}
    (hslot : transition.slot < maxSlots) (now : UInt64) :
    (calibration.sample transition now).key = .primary ↔ transition.slot = 0 := by
  have hkey : (calibration.sample transition now).key = ⟨.touch, UInt32.ofNat transition.slot⟩ :=
    key_mark hmulti transition
  have hsize : transition.slot < UInt32.size := Nat.lt_trans hslot (by decide)
  unfold Key.primary
  rw [hkey, Key.mk.injEq, ← UInt32.toNat_inj, UInt32.toNat_ofNat_of_lt' hsize]
  simp

end Calibration

namespace Reader

open Kernel (Record)

def owed (reader : Reader) : List Event := reader.mouseEvent.toList.map .mouse

/--
The transitions that are still ahead if the device brings some more records and then fails.
-/
def ahead (reader : Reader) (more : List Record) : List Transition :=
  if reader.isLeaving then reader.transitions
  else reader.transitions ++ reader.tracker.reported (reader.records ++ more)

/--
A worker that drives the mouse, and that nobody has asked to end, after some samples that it has
delivered. Whatever the device brings yet, the strokes will be whole.
-/
structure Drives (surface : Reference) (reader : Reader) (delivered : List Sample) : Prop where
  isMultiTouch : reader.calibration.isMultiTouch = true
  mouseSurface : reader.mouseSurface = some surface
  isWanted : reader.isWanted = true
  records : reader.isLeaving = true → reader.records = []
  ended : reader.hasEnded = true →
    reader.isLeaving = true ∧ reader.transitions = [] ∧ reader.mouseEvent = none
  slots : ∀ more, ∀ transition ∈ reader.ahead more, transition.slot < maxSlots
  closed : ∀ more key,
    Stroke.Closed (ofKey key (delivered ++ (reader.ahead more).map reader.calibration.mark))

/--
A worker has gone on, and has delivered some events by it. With what it owes then, they are what it
owed before and the samples among them, each with its mouse event.
-/
structure Mirrors (surface : Reference) (reader : Reader) (inbox : Inbox) (delivered : List Sample)
    (next : Reader) (after : Inbox) (events : List Event) : Prop where
  drives : next.Drives surface (delivered ++ Event.samples events)
  flows : inbox.Flows reader.waiting after next.waiting events
  mirrored : events ++ next.owed =
    reader.owed ++ Event.mirrored surface (Event.samples events)

variable {reader : Reader} {surface : Reference} {delivered : List Sample} {inbox : Inbox}

theorem drives_new {capabilities : Device.Capabilities}
    (hprotocol : capabilities.protocol.isMultiTouch) (hmulti : capabilities.isMultiTouch = true)
    (feed : Kernel.Feed) (surface : Reference) :
    (Reader.new feed capabilities (some surface)).Drives surface [] := by
  have hsound := Tracker.sound_new capabilities.protocol capabilities.slotCount
  constructor
  . exact hmulti
  . rfl
  . rfl
  . exact nofun
  . exact nofun
  . intro more transition hmem
    exact Nat.lt_of_lt_of_le (Tracker.slot_lt_of_mem_reported hmem) hsound.length_slots_le
  . intro more key
    exact Calibration.closed_reported hprotocol hmulti more key

theorem mirrors_of_ahead (h : reader.Drives surface delivered) (inbox : Inbox) {next : Reader}
    (hcalibration : next.calibration = reader.calibration)
    (hsurface : next.mouseSurface = reader.mouseSurface)
    (hwanted : next.isWanted = reader.isWanted)
    (hrecords : next.isLeaving = true → next.records = [])
    (hended : next.hasEnded = true →
      next.isLeaving = true ∧ next.transitions = [] ∧ next.mouseEvent = none)
    (hahead : ∀ more, ∃ fetched, next.ahead more = reader.ahead fetched)
    (hwaiting : next.waiting = reader.waiting) (howed : next.owed = reader.owed) :
    Mirrors surface reader inbox delivered next inbox [] := by
  constructor
  . constructor
    . rw [hcalibration]
      exact h.isMultiTouch
    . exact hsurface.trans h.mouseSurface
    . exact hwanted.trans h.isWanted
    . exact hrecords
    . exact hended
    . intro more
      obtain ⟨fetched, hsame⟩ := hahead more
      rw [hsame]
      exact h.slots fetched
    . intro more
      obtain ⟨fetched, hsame⟩ := hahead more
      rw [hsame, hcalibration, Event.samples_nil, List.append_nil]
      exact h.closed fetched
  . rw [hwaiting]
    exact Inbox.flows_refl inbox _
  . rw [howed]
    exact (List.append_nil _).symm

theorem mirrors_waiting (h : reader.Drives surface delivered) (hopen : inbox.isOpen = true) :
    Mirrors surface reader inbox delivered
      (reader.settle (inbox.enqueue reader.waiting).2) (inbox.enqueue reader.waiting).1 [] := by
  rw [settle_of_ne_closed _ (Inbox.enqueue_ne_closed hopen _)]
  constructor
  . rw [Event.samples_nil, List.append_nil]
    exact ⟨h.isMultiTouch, h.mouseSurface, h.isWanted, h.records, h.ended, h.slots, h.closed⟩
  . exact Inbox.flows_enqueue hopen _
  . exact (List.append_nil _).symm

theorem mirrors_mouseEvent (h : reader.Drives surface delivered) (hended : reader.hasEnded = false)
    (hwaiting : reader.waiting = []) {event : MouseEvent} (hmouse : reader.mouseEvent = some event)
    (hopen : inbox.isOpen = true) :
    Mirrors surface reader inbox delivered
      ({ reader with mouseEvent := none }.settle (inbox.push (.mouse event)).2)
      (inbox.push (.mouse event)).1 [.mouse event] := by
  rw [settle_of_ne_closed _ (Inbox.push_ne_closed hopen _)]
  constructor
  . rw [Event.samples_singleton_of_none rfl, List.append_nil]
    refine ⟨h.isMultiTouch, h.mouseSurface, h.isWanted, h.records, ?_, h.slots, h.closed⟩
    intro hagain
    rw [hended] at hagain
    contradiction
  . rw [hwaiting]
    exact Inbox.flows_push hopen _
  . unfold owed
    rw [hmouse]
    rfl

theorem ahead_eq_cons {transition : Transition} {transitions : List Transition}
    (htransitions : reader.transitions = transition :: transitions) (more : List Record) :
    reader.ahead more = transition :: { reader with transitions }.ahead more := by
  unfold ahead
  rw [htransitions]
  split <;> rfl

theorem mirrors_transition (h : reader.Drives surface delivered) (hended : reader.hasEnded = false)
    (hwaiting : reader.waiting = []) (hmouse : reader.mouseEvent = none)
    {transition : Transition} {transitions : List Transition}
    (htransitions : reader.transitions = transition :: transitions) (now : UInt64)
    (hopen : inbox.isOpen = true) (htracks : inbox.guard.Tracks delivered) :
    let sample := reader.calibration.sample transition now
    Mirrors surface reader inbox delivered
      ({ reader with
          transitions
          mouseEvent :=
            if transition.slot = 0 then reader.mouseSurface.map sample.mouseEvent else none }.settle
          (inbox.push (.pointer sample)).2)
      (inbox.push (.pointer sample)).1 [.pointer sample] := by
  intro sample
  have hahead := ahead_eq_cons htransitions
  -- The sample and its mark differ in the time only.
  have hclosed : ∀ more key, Stroke.Closed (ofKey key (delivered ++ sample ::
      ({ reader with transitions }.ahead more).map reader.calibration.mark)) := by
    intro more key
    have hmarks := h.closed more key
    rw [hahead, List.map_cons, Stroke.ofKey_append, Stroke.ofKey_cons] at hmarks
    rw [Stroke.ofKey_append, Stroke.ofKey_cons]
    exact hmarks
  have haccepted := Guard.judge_of_closed htracks (hclosed [] sample.key)
  rw [settle_of_ne_closed _ (Inbox.push_ne_closed hopen _)]
  constructor
  . rw [show Event.samples [.pointer sample] = [sample] from rfl]
    refine ⟨h.isMultiTouch, h.mouseSurface, h.isWanted, h.records, ?_, ?_, ?_⟩
    . intro hagain
      rw [hended] at hagain
      contradiction
    . intro more other hmem
      apply h.slots more
      rw [hahead]
      exact List.mem_cons_of_mem _ hmem
    . intro more key
      rw [← List.append_cons]
      exact hclosed more key
  . have hflows := Inbox.flows_push hopen (.pointer sample)
    rw [Inbox.arrivals_of_accepted haccepted] at hflows
    rw [hwaiting]
    exact hflows
  . have hslot : transition.slot < maxSlots := by
      apply h.slots []
      rw [hahead]
      exact List.mem_cons_self
    unfold owed
    rw [hmouse, show Event.samples [.pointer sample] = [sample] from rfl, Event.mirrored_cons]
    simp only [Calibration.key_sample_eq_primary_iff h.isMultiTouch hslot now, sample,
      h.mouseSurface]
    split <;> rfl

theorem mirrors_record (h : reader.Drives surface delivered) (hended : reader.hasEnded = false)
    (htransitions : reader.transitions = []) {record : Record} {records : List Record}
    (hrecords : reader.records = record :: records) :
    Mirrors surface reader inbox delivered
      { reader with
        tracker := (reader.tracker.process record).1
        records
        transitions := (reader.tracker.process record).2.getD [] } inbox [] := by
  have hleaving : reader.isLeaving = false := by
    rw [← Bool.not_eq_true]
    intro hleaving
    rw [h.records hleaving] at hrecords
    contradiction
  apply mirrors_of_ahead h inbox
  . rfl
  . rfl
  . rfl
  . intro hagain
    rw [hleaving] at hagain
    contradiction
  . intro hagain
    rw [hended] at hagain
    contradiction
  . intro more
    refine ⟨more, ?_⟩
    unfold ahead
    rw [hleaving, htransitions, hrecords, List.cons_append, List.nil_append,
      Tracker.reported_cons]
    rfl
  . rfl
  . rfl

theorem mirrors_end (h : reader.Drives surface delivered) (hmouse : reader.mouseEvent = none)
    (htransitions : reader.transitions = []) (hleaving : reader.isLeaving = true) :
    Mirrors surface reader inbox delivered { reader with hasEnded := true } inbox [] :=
  mirrors_of_ahead h inbox rfl rfl rfl h.records (fun _ => ⟨hleaving, htransitions, hmouse⟩)
    (fun more => ⟨more, rfl⟩) rfl rfl

theorem mirrors_fetch (h : reader.Drives surface delivered) (hended : reader.hasEnded = false)
    (hwaiting : reader.waiting = []) (hmouse : reader.mouseEvent = none)
    (htransitions : reader.transitions = []) (hrecords : reader.records = [])
    (hleaving : reader.isLeaving = false) :
    Mirrors surface reader inbox delivered reader.fetch.1 inbox [] := by
  have hgoing : reader.hasEnded ≠ true := by
    rw [hended]
    exact Bool.false_ne_true
  unfold fetch
  cases reader.feed.fetch with
  | mk fetched feed =>
    cases fetched with
    | ok records =>
      apply mirrors_of_ahead h inbox
      . rfl
      . rfl
      . rfl
      . intro hagain
        rw [hleaving] at hagain
        contradiction
      . exact fun hagain => absurd hagain hgoing
      . -- What has been fetched is now counted among the records.
        intro more
        refine ⟨records ++ more, ?_⟩
        unfold ahead
        rw [hleaving, hrecords]
        rfl
      . rfl
      . rfl
    | error fault =>
      dsimp only
      split
      . exact mirrors_of_ahead h inbox rfl rfl rfl h.records (fun hagain => absurd hagain hgoing)
          (fun more => ⟨more, rfl⟩) rfl rfl
      . apply mirrors_of_ahead h inbox
        . rfl
        . rfl
        . rfl
        . exact fun _ => rfl
        . exact fun hagain => absurd hagain hgoing
        . -- The release is what is reported of no further records.
          intro more
          refine ⟨[], ?_⟩
          unfold ahead
          rw [hleaving, htransitions, hrecords, List.append_nil, Tracker.reported_nil]
          rfl
        . exact hwaiting.symm
        . unfold owed
          rw [hmouse]
          rfl

/--
Each step of a worker that drives the mouse, with an inbox that is open, delivers samples and the
mouse events that belong to them, in that order.
-/
theorem mirrors_step (h : reader.Drives surface delivered) (hopen : inbox.isOpen = true)
    (htracks : inbox.guard.Tracks delivered) (now : UInt64) :
    ∃ events, Mirrors surface reader inbox delivered (reader.step now inbox).1
      (reader.step now inbox).2.1 events := by
  cases hended : reader.hasEnded with
  | true =>
    rw [step_of_hasEnded hended]
    exact ⟨[], mirrors_of_ahead h inbox rfl rfl rfl h.records h.ended (fun more => ⟨more, rfl⟩)
      rfl rfl⟩
  | false =>
    by_cases hwaiting : reader.waiting = []
    . cases hmouse : reader.mouseEvent with
      | some event =>
        rw [step_of_mouseEvent hended hwaiting hmouse]
        exact ⟨_, mirrors_mouseEvent h hended hwaiting hmouse hopen⟩
      | none =>
        cases htransitions : reader.transitions with
        | cons transition transitions =>
          rw [step_of_transition hended hwaiting hmouse htransitions]
          exact ⟨_, mirrors_transition h hended hwaiting hmouse htransitions now hopen htracks⟩
        | nil =>
          cases hrecords : reader.records with
          | cons record records =>
            rw [step_of_record hended hwaiting hmouse htransitions hrecords]
            exact ⟨_, mirrors_record h hended htransitions hrecords⟩
          | nil =>
            cases hleaving : reader.isLeaving with
            | true =>
              rw [step_of_isLeaving hended hwaiting hmouse htransitions hrecords hleaving]
              exact ⟨_, mirrors_end h hmouse htransitions hleaving⟩
            | false =>
              rw [step_of_isWanted hended hwaiting hmouse htransitions hrecords hleaving
                h.isWanted]
              exact ⟨_, mirrors_fetch h hended hwaiting hmouse htransitions hrecords hleaving⟩
    . rw [step_of_waiting hended hwaiting]
      exact ⟨_, mirrors_waiting h hopen⟩

end Reader

end TouchPanel
