import TouchPanel.Proofs.Contact.Frame

/-!
This module contains what the button of a single contact does to its strokes. A press that finds the
contact lifted, before a frame has told of it, begins a new contact in its place, and nothing is
kept of the up that the old one is owed (`Tracker.Forgets`).

Main statement: `Tracker.strokes_performAll_single_iff`. Without such a press the reports are
strokes, and a release closes exactly those that are open. With one they are not.
-/

namespace TouchPanel

open Kernel (Record)

def Kernel.Record.IsPress (record : Record) : Prop :=
  record.kind = EventType.key ∧ record.code = Button.touch ∧ record.value ≠ 0

instance (record : Record) : Decidable record.IsPress :=
  inferInstanceAs (Decidable (_ ∧ _))

def Slot.isLifting (slot : Slot) : Bool := slot.contact.isDown && !slot.contact.isActive

namespace Slot

theorem onAxis_single (slot : Slot) (code : UInt16) (value : Int32) :
    ∃ change, slot.onAxis .single code value = slot.update change ∧
      ∀ contact, (change contact).isDown = contact.isDown := by
  unfold onAxis
  dsimp only
  generalize (if Protocol.single = .single then _ else _) = xCode
  generalize (if Protocol.single = .single then _ else _) = yCode
  generalize (if Protocol.single = .single then _ else _) = pressureCode
  rw [if_neg (by simp), if_neg (by simp)]
  split
  . exact ⟨_, rfl, fun _ => rfl⟩
  . split
    . exact ⟨_, rfl, fun _ => rfl⟩
    . split
      . exact ⟨_, rfl, fun _ => rfl⟩
      . exact ⟨id, rfl, fun _ => rfl⟩

theorem press_eq_update (slot : Slot) (isPressed : Bool) :
    ∃ change, slot.press isPressed = slot.update change ∧
      (change slot.contact).isDown = (slot.contact.isDown && !(isPressed && slot.isLifting)) := by
  unfold press isLifting
  cases isPressed with
  | false =>
    rw [if_neg Bool.false_ne_true]
    exact ⟨_, rfl, by simp⟩
  | true =>
    rw [if_pos rfl]
    cases hactive : slot.contact.isActive with
    | false =>
      rw [if_neg Bool.false_ne_true]
      exact ⟨_, rfl, by simp⟩
    | true => exact ⟨id, rfl, by simp⟩

theorem hear_single (slot : Slot) (record : Record) :
    ∃ change, slot.hear .single record = slot.update change ∧
      (change slot.contact).isDown =
        (slot.contact.isDown && !(decide record.IsPress && slot.isLifting)) := by
  unfold hear
  split
  . next hkind =>
    have hpress : ¬record.IsPress := by
      rintro ⟨hkey, -⟩
      rw [hkind] at hkey
      contradiction
    obtain ⟨change, hchange, hdown⟩ := onAxis_single slot record.code record.value
    refine ⟨change, hchange, ?_⟩
    simp [hdown slot.contact, hpress]
  . split
    . next hkey =>
      have hpress : decide record.IsPress = (record.value != 0) := by
        unfold Kernel.Record.IsPress
        by_cases hvalue : record.value = 0 <;> simp [hkey.1, hkey.2.1, hvalue]
      rw [hpress]
      exact press_eq_update slot (record.value != 0)
    . next hkey =>
      have hpress : ¬record.IsPress := fun h => hkey ⟨h.1, h.2.1, rfl⟩
      exact ⟨id, rfl, by simp [hpress]⟩

theorem report_hear_of_isLifting {slot : Slot} (howed : slot.owed = none)
    (hlifting : slot.isLifting = true) {record : Record} (hpress : record.IsPress)
    (index : Nat) (time : UInt64) :
    ((slot.hear .single record).report index time).map Transition.phase = [.down] := by
  obtain ⟨hkind, hcode, hvalue⟩ := hpress
  have hactive : slot.contact.isActive = false := by
    unfold isLifting at hlifting
    simp_all
  have habsolute : record.kind ≠ Kernel.EventType.absolute := by
    rw [hkind]
    decide
  have hpressed : slot.press (record.value != 0) =
      slot.update ({ · with trackingId := 0, isActive := true, isDown := false }) := by
    unfold press
    rw [if_pos (by simpa using hvalue), hactive, if_neg Bool.false_ne_true]
  unfold hear
  rw [if_neg habsolute, if_pos ⟨hkind, hcode, rfl⟩, hpressed]
  unfold report update
  rw [howed]
  rfl

theorem isOpen_of_owed {slot : Slot} (h : slot.owed = none) :
    slot.isOpen = slot.contact.isDown := by
  unfold isOpen
  rw [h]
  rfl

theorem isOpen_report {slot : Slot} (hdown : slot.settle.contact.isDown = true)
    (phases : List Phase) (index : Nat) (time : UInt64) :
    Stroke.IsOpen (phases ++ (slot.report index time).map Transition.phase) := by
  have hactive : slot.contact.isActive = true := hdown
  unfold Stroke.IsOpen report
  dsimp only
  rw [hactive, if_pos rfl, List.map_append, ← List.append_assoc, List.map_singleton,
    List.getLast?_concat]
  cases slot.contact.isDown <;> simp [Contact.transition]

end Slot

namespace Tracker

/--
A press begins a contact in the place of one that has lifted, and of which no frame has told so.
-/
def Forgets (tracker : Tracker) : Op → Prop
  | .process record =>
    tracker.isDropped = false ∧ record.IsPress ∧ tracker.slots.any Slot.isLifting = true
  | .release _ => False

instance (tracker : Tracker) (op : Op) : Decidable (tracker.Forgets op) :=
  match op with
  | .process record =>
    inferInstanceAs (Decidable (tracker.isDropped = false ∧ record.IsPress ∧
      tracker.slots.any Slot.isLifting = true))
  | .release _ => .isFalse id

structure Holds (tracker : Tracker) (slot : Slot) : Prop where
  protocol : tracker.protocol = .single
  slots : tracker.slots = [slot]
  owed : slot.owed = none

variable {tracker : Tracker} {slot : Slot}

theorem performAll_append (tracker : Tracker) (ops more : List Op) :
    tracker.performAll (ops ++ more) =
      (((tracker.performAll ops).1.performAll more).1,
        (tracker.performAll ops).2 ++ ((tracker.performAll ops).1.performAll more).2) := by
  induction ops generalizing tracker with
  | nil => rfl
  | cons op ops ih => simp [performAll, ih]

theorem performAll_singleton (tracker : Tracker) (op : Op) :
    tracker.performAll [op] = tracker.perform op := by
  simp [performAll]

theorem performAll_concat_of_quiet {ops : List Op} {record : Record}
    (hquiet : ((tracker.performAll ops).1.process record).2 = none) :
    tracker.performAll (ops ++ [.process record]) =
      (((tracker.performAll ops).1.process record).1, (tracker.performAll ops).2) := by
  rw [performAll_append, performAll_singleton]
  unfold perform
  dsimp only
  rw [hquiet, Option.getD_none, List.append_nil]

theorem holds_new (count : Nat) : Holds (new .single count) .empty := ⟨rfl, rfl, rfl⟩

theorem reports_singleton {report : Slot → Nat → UInt64 → List Transition}
    (hlength : ∀ slot index time, (report slot index time).length ≤ 2) (slot : Slot)
    (time : UInt64) : reports report [slot] time = report slot 0 time := by
  have hslots : [slot].length ≤ maxSlots := by simp [maxSlots]
  rw [reports_eq_allReports hlength hslots]
  exact List.append_nil _

theorem closing_of_holds (h : Holds tracker slot) : tracker.closing = [slot] := by
  unfold closing
  rw [h.protocol, if_neg Protocol.noConfusion, h.slots]

theorem onSync_of_holds (h : Holds tracker slot) (code : UInt16) (time : UInt64) :
    ((tracker.onSync code time).2 = none ∧
      ∃ next, (tracker.onSync code time).1.slots = [next] ∧ next.owed = none ∧
        next.contact = slot.contact) ∨
    ((tracker.onSync code time).2 = some (slot.report 0 time) ∧
      (tracker.onSync code time).1.slots = [slot.settle]) := by
  have hsame : tracker.slots = [slot] ∧ slot.owed = none ∧ slot.contact = slot.contact :=
    ⟨h.slots, h.owed, rfl⟩
  unfold onSync
  split
  . apply Or.inl
    unfold onDropped resetGroups
    dsimp only
    rw [h.slots]
    exact ⟨rfl, _, rfl, h.owed, rfl⟩
  . split
    . apply Or.inl
      unfold onContactReport
      rw [h.protocol]
      exact ⟨rfl, slot, hsame⟩
    . split
      . split
        . exact Or.inl ⟨rfl, slot, hsame⟩
        . apply Or.inr
          dsimp only
          rw [slots_finishFrame, reports_finishFrame, closing_of_holds h,
            reports_singleton Slot.length_report_le]
          exact ⟨rfl, rfl⟩
      . exact Or.inl ⟨rfl, slot, hsame⟩

theorem protocol_process_of_holds (h : Holds tracker slot) (record : Record) :
    (tracker.process record).1.protocol = .single := by
  rw [protocol_process, h.protocol]

theorem holds_hear (h : Holds tracker slot) {record : Record}
    (hkind : record.kind ≠ Kernel.EventType.sync) (hdropped : tracker.isDropped = false) :
    Holds (tracker.process record).1 (slot.hear .single record) ∧
      (tracker.process record).2 = none := by
  obtain ⟨change, hchange, -⟩ := slot.hear_single record
  constructor
  . refine ⟨protocol_process_of_holds h record, ?_, ?_⟩
    . rw [slots_process hkind hdropped]
      unfold modifyTarget target?
      rw [h.protocol, h.slots]
      rfl
    . rw [hchange]
      exact h.owed
  . unfold process
    rw [if_neg hkind, hdropped, if_neg Bool.false_ne_true]
    split
    . rfl
    . split <;> rfl

theorem holds_process (h : Holds tracker slot) (record : Record) :
    ∃ next, Holds (tracker.process record).1 next ∧
      (((tracker.process record).2 = none ∧ next.contact.isDown =
          (slot.contact.isDown && !decide (tracker.Forgets (.process record)))) ∨
        ((tracker.process record).2 = some (slot.report 0 record.time) ∧
          next = slot.settle)) := by
  by_cases hkind : record.kind = Kernel.EventType.sync
  . have hforgets : ¬tracker.Forgets (.process record) := by
      rintro ⟨-, ⟨hkey, -⟩, -⟩
      rw [hkind] at hkey
      contradiction
    have hprocess : tracker.process record = tracker.onSync record.code record.time := by
      unfold process
      rw [if_pos hkind]
    have hprotocol := protocol_process_of_holds h record
    rw [hprocess] at hprotocol ⊢
    rcases onSync_of_holds h record.code record.time with
      ⟨hframe, next, hslots, howed, hcontact⟩ | ⟨hframe, hslots⟩
    . refine ⟨next, ⟨hprotocol, hslots, howed⟩, Or.inl ⟨hframe, ?_⟩⟩
      rw [hcontact]
      simp [hforgets]
    . exact ⟨slot.settle, ⟨hprotocol, hslots, rfl⟩, Or.inr ⟨hframe, rfl⟩⟩
  . cases hdropped : tracker.isDropped with
    | true =>
      have hforgets : ¬tracker.Forgets (.process record) := by
        rintro ⟨hheard, -⟩
        rw [hdropped] at hheard
        contradiction
      have hprocess : tracker.process record = (tracker, none) := by
        unfold process
        rw [if_neg hkind, hdropped]
        rfl
      rw [hprocess]
      exact ⟨slot, h, Or.inl ⟨rfl, by simp [hforgets]⟩⟩
    | false =>
      have hforgets : tracker.Forgets (.process record) ↔
          record.IsPress ∧ slot.isLifting = true := by
        unfold Forgets
        rw [h.slots]
        simp [hdropped]
      obtain ⟨hnext, hquiet⟩ := holds_hear h hkind hdropped
      refine ⟨slot.hear .single record, hnext, Or.inl ⟨hquiet, ?_⟩⟩
      obtain ⟨change, hchange, hdown⟩ := slot.hear_single record
      rw [decide_eq_decide.2 hforgets, Bool.decide_and, Bool.decide_eq_true, hchange]
      exact hdown

theorem holds_release (h : Holds tracker slot) (time : UInt64) :
    Holds (tracker.release time).1 slot.clear ∧
      (tracker.release time).2 = slot.releases 0 time ∧
      (tracker.release time).2.map Transition.phase =
        if slot.contact.isDown then [.up] else [] := by
  have hreported : (tracker.release time).2 = slot.releases 0 time := by
    unfold release
    dsimp only
    rw [h.slots, reports_singleton Slot.length_releases_le]
  refine ⟨⟨h.protocol, ?_, rfl⟩, hreported, ?_⟩
  . unfold release
    dsimp only
    rw [h.slots]
    rfl
  . rw [hreported, Slot.map_phase_releases (by simp [h.owed]), Slot.isOpen_of_owed h.owed]

/--
What the reports so far tell of the contact: it is down only if a stroke is open, and if nothing
has been forgotten, exactly then.
-/
structure Recalls (slot : Slot) (phases : List Phase) (forgotten : Prop) : Prop where
  isOpen : slot.contact.isDown = true → Stroke.IsOpen phases
  run : ¬forgotten → Stroke.run false phases = some slot.contact.isDown

def ForgetsIn (tracker : Tracker) (ops : List Op) : Prop :=
  ∃ before op, before ++ [op] <+: ops ∧ (tracker.performAll before).1.Forgets op

theorem forgetsIn_concat (tracker : Tracker) (ops : List Op) (op : Op) :
    tracker.ForgetsIn (ops ++ [op]) ↔
      tracker.ForgetsIn ops ∨ (tracker.performAll ops).1.Forgets op := by
  unfold ForgetsIn
  simp only [List.prefix_concat_iff, or_and_right, exists_or]
  rw [or_comm]
  apply or_congr Iff.rfl
  constructor
  . rintro ⟨before, last, hsplit, hforgets⟩
    obtain ⟨rfl, hlast⟩ := List.append_inj' hsplit rfl
    obtain rfl := List.singleton_inj.1 hlast
    exact hforgets
  . exact fun hforgets => ⟨ops, op, rfl, hforgets⟩

theorem forgetsIn_mono {before ops : List Op} (hbegins : before <+: ops)
    (h : tracker.ForgetsIn before) : tracker.ForgetsIn ops := by
  obtain ⟨earlier, op, hearlier, hforgets⟩ := h
  exact ⟨earlier, op, hearlier.trans hbegins, hforgets⟩

theorem recalls_perform {phases : List Phase} {forgotten : Prop} (h : Holds tracker slot)
    (hrecalls : Recalls slot phases forgotten) (op : Op) :
    ∃ next, Holds (tracker.perform op).1 next ∧
      Recalls next (phases ++ phasesAt 0 (tracker.perform op).2)
        (forgotten ∨ tracker.Forgets op) := by
  cases op with
  | process record =>
    unfold perform
    dsimp only
    obtain ⟨next, hnext, ⟨hframe, hdown⟩ | ⟨hframe, rfl⟩⟩ := holds_process h record
    . refine ⟨next, hnext, ?_⟩
      have hnone : phasesAt 0 [] = [] := rfl
      rw [hframe, Option.getD_none, hnone, List.append_nil]
      constructor
      . intro hstill
        rw [hdown, Bool.and_eq_true] at hstill
        exact hrecalls.isOpen hstill.1
      . intro hnever
        rw [not_or] at hnever
        rw [hdown, decide_eq_false hnever.2, Bool.not_false, Bool.and_true]
        exact hrecalls.run hnever.1
    . refine ⟨slot.settle, hnext, ?_⟩
      rw [hframe, Option.getD_some, phasesAt_of_slot_eq (Slot.slot_of_mem_report slot 0 _)]
      constructor
      . intro hstill
        exact Slot.isOpen_report hstill phases 0 record.time
      . intro hnever
        rw [not_or] at hnever
        have howed : slot.owed.isSome → slot.contact.isDown = false := by simp [h.owed]
        have hrun := Slot.run_report howed 0 record.time
        rw [Slot.isOpen_of_owed h.owed, Slot.isOpen_of_owed hnext.owed] at hrun
        rw [Stroke.run_append, hrecalls.run hnever.1]
        exact hrun
  | release time =>
    unfold perform
    obtain ⟨hnext, hreported, hphases⟩ := holds_release h time
    refine ⟨slot.clear, hnext, ?_⟩
    rw [hreported] at hphases
    rw [hreported, phasesAt_of_slot_eq (Slot.slot_of_mem_releases slot 0 time), hphases]
    constructor
    . exact nofun
    . intro hnever
      rw [not_or] at hnever
      rw [Stroke.run_append, hrecalls.run hnever.1]
      cases slot.contact.isDown <;> rfl

theorem recalls_performAll (count : Nat) (ops : List Op) :
    ∃ slot, Holds ((new .single count).performAll ops).1 slot ∧
      Recalls slot (phasesAt 0 ((new .single count).performAll ops).2)
        ((new .single count).ForgetsIn ops) := by
  induction ops using List.reverseRecOn with
  | nil => exact ⟨.empty, holds_new count, nofun, fun _ => rfl⟩
  | append_singleton ops op ih =>
    obtain ⟨slot, hslot, hrecalls⟩ := ih
    rw [performAll_append, performAll_singleton, phasesAt_append, forgetsIn_concat]
    exact recalls_perform hslot hrecalls op

theorem exists_prefix_of_forgetsIn {ops : List Op} (h : tracker.ForgetsIn ops) :
    ∃ before record, before ++ [.process record] <+: ops ∧
      (tracker.performAll before).1.Forgets (.process record) := by
  obtain ⟨before, op, hbegins, hforgets⟩ := h
  cases op with
  | process record => exact ⟨before, record, hbegins, hforgets⟩
  | release => contradiction

theorem not_follows_append_down {phases : List Phase} (h : Stroke.IsOpen phases) :
    ¬Stroke.Follows (phases ++ [.down]) := by
  unfold Stroke.Follows
  rw [Stroke.run_append]
  cases hrun : Stroke.run false phases with
  | none => simp
  | some isDown =>
    obtain rfl := (Stroke.isOpen_iff_of_run hrun).1 h
    simp [Stroke.next]

/--
A press that forgets a contact reports nothing, and leaves a contact that is not down yet. The frame
after it reports a down.
-/
theorem holds_of_forgets (h : Holds tracker slot) {record : Record}
    (hforgets : tracker.Forgets (.process record)) :
    slot.contact.isDown = true ∧
      ∃ next, Holds (tracker.process record).1 next ∧ next.contact.isDown = false ∧
        (tracker.process record).2 = none ∧
        ∀ time, phasesAt 0 (((tracker.process record).1.process (.sync time)).2.getD []) =
          [.down] := by
  obtain ⟨hdropped, hpress, hlifting⟩ := hforgets
  simp only [h.slots, List.any_cons, List.any_nil, Bool.or_false] at hlifting
  have hkind : record.kind ≠ Kernel.EventType.sync := by
    rw [hpress.1]
    decide
  obtain ⟨hnext, hquiet⟩ := holds_hear h hkind hdropped
  refine ⟨(Bool.and_eq_true_iff.1 hlifting).1, slot.hear .single record, hnext, ?_, hquiet, ?_⟩
  . obtain ⟨change, hchange, hdown⟩ := slot.hear_single record
    rw [hchange]
    exact hdown.trans (by simp [hpress, hlifting])
  . intro time
    unfold Record.sync
    rw [process_report _ time 0, closing_of_holds hnext, reports_singleton Slot.length_report_le,
      Option.getD_some, phasesAt_of_slot_eq (Slot.slot_of_mem_report _ 0 time)]
    . exact Slot.report_hear_of_isLifting h.owed hlifting hpress 0 time
    . rw [isDropped_process hkind, hdropped]

/--
Whatever is done with the tracker of a single contact, its reports are strokes, and a release closes
exactly the one that is open, after each operation, if and only if no press forgets a contact. A
press that does lets the next frame report a second down.
-/
theorem strokes_performAll_single_iff (count : Nat) (ops : List Op) :
    ((∀ before, before <+: ops →
        let tracker := ((new .single count).performAll before).1
        let reported := ((new .single count).performAll before).2
        Stroke.Follows (phasesAt 0 reported) ∧
          ∀ time, (tracker.release time).2.map Transition.phase =
            if Stroke.IsOpen (phasesAt 0 reported) then [.up] else []) ↔
      ¬(new .single count).ForgetsIn ops) ∧
    ∀ record time, ((new .single count).performAll ops).1.Forgets (.process record) →
      let reported := ((new .single count).performAll ops).2
      let more := ((new .single count).performAll
        (ops ++ [.process record, .process (.sync time)])).2
      phasesAt 0 more = phasesAt 0 reported ++ [.down] ∧ ¬Stroke.Follows (phasesAt 0 more) := by
  constructor
  . constructor
    . intro hstrokes hforgets
      obtain ⟨before, record, hbegins, hforgets⟩ := exists_prefix_of_forgetsIn hforgets
      obtain ⟨slot, hslot, hrecalls⟩ := recalls_performAll count before
      obtain ⟨hdown, next, hnext, hnot, hquiet, -⟩ := holds_of_forgets hslot hforgets
      -- The stroke is open after the press as before, and yet a release reports nothing.
      obtain ⟨-, hrelease⟩ := hstrokes _ hbegins
      rw [performAll_concat_of_quiet hquiet] at hrelease
      have hup := (hrelease 0).trans (if_pos (hrecalls.isOpen hdown))
      rw [(holds_release hnext 0).2.2, hnot] at hup
      contradiction
    . intro hnever before hbefore tracker reported
      obtain ⟨slot, hslot, hrecalls⟩ := recalls_performAll count before
      have hrun : Stroke.run false (phasesAt 0 reported) = some slot.contact.isDown :=
        hrecalls.run fun hforgets => hnever (forgetsIn_mono hbefore hforgets)
      refine ⟨Stroke.follows_of_run hrun, ?_⟩
      intro time
      simp only [Stroke.isOpen_iff_of_run hrun]
      exact (holds_release hslot time).2.2
  . intro record time hforgets reported more
    obtain ⟨slot, hslot, hrecalls⟩ := recalls_performAll count ops
    obtain ⟨hdown, next, -, -, hquiet, hframe⟩ := holds_of_forgets hslot hforgets
    have hmore : phasesAt 0 more = phasesAt 0 reported ++ [.down] := by
      change phasesAt 0 ((new .single count).performAll _).2 = _
      rw [List.append_cons, performAll_append, performAll_concat_of_quiet hquiet,
        performAll_singleton, phasesAt_append]
      exact congrArg _ (hframe time)
    refine ⟨hmore, ?_⟩
    rw [hmore]
    exact not_follows_append_down (hrecalls.isOpen hdown)

/--
A contact lifts, and the button is pressed again before the frame ends.
-/
theorem strokes_performAll_single_iff_lifting :
    let button (time : UInt64) (value : Int32) : Record :=
      ⟨time, Kernel.EventType.key, Kernel.Button.touch, value⟩
    let ops : List Op := [.process (button 0 1), .process (.sync 1), .process (button 2 0)]
    let reported := ((new .single 1).performAll ops).2
    let more := ((new .single 1).performAll
      (ops ++ [.process (button 3 1), .process (.sync 4)])).2
    ((new .single 1).performAll ops).1.Forgets (.process (button 3 1)) ∧
      phasesAt 0 more = phasesAt 0 reported ++ [.down] ∧ ¬Stroke.Follows (phasesAt 0 more) := by
  intro button ops reported more
  have hforgets : ((new .single 1).performAll ops).1.Forgets (.process (button 3 1)) := by decide
  exact ⟨hforgets, (strokes_performAll_single_iff 1 ops).2 _ 4 hforgets⟩

/--
The frame reports the contact as going down twice, and a release before the end of the frame leaves
the stroke open.
-/
theorem phasesAt_performAll_pressed_again :
    let button (time : UInt64) (value : Int32) : Record :=
      ⟨time, Kernel.EventType.key, Kernel.Button.touch, value⟩
    let ops : List Op :=
      [.process (button 0 1), .process (.sync 1), .process (button 2 0), .process (button 3 1)]
    let pressed := (new .single 1).performAll ops
    phasesAt 0 ((new .single 1).performAll (ops ++ [.process (.sync 4)])).2 = [.down, .down] ∧
      ¬Stroke.Follows (phasesAt 0 ((new .single 1).performAll (ops ++ [.process (.sync 4)])).2) ∧
      Stroke.IsOpen (phasesAt 0 pressed.2) ∧ (pressed.1.release 4).2 = [] := by
  decide

end Tracker

end TouchPanel
