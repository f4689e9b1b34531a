import TouchPanel.Proofs.Contact.Remnant

/-!
This module contains the records that bring out what a tracker knows of a contact, and with them the
proof that a frame that is lost before its end leaves no trace if and only if its records said
nothing new (`Tracker.framesOf_cut_iff`).

What a slotted tracker knows of a contact that is down shows as soon as its slot is named. Where it
keeps one that is up shows once a contact is put in the slot (`Tracker.reportedAt_track`). An
anonymous tracker is given as many contacts, each with one coordinate only
(`Tracker.reportedAt_groupsOf`).
-/

namespace TouchPanel

open Kernel (Record)
open Kernel.Record (values)

def Kernel.Record.close : Record := ⟨0, EventType.sync, Sync.contactReport, 0⟩

def Kernel.Record.groupsOf (record : Record) : Nat → List Record
  | 0 => []
  | count + 1 => groupsOf record count ++ [record, close]

def Kernel.Record.select (index : Nat) : Record :=
  ⟨0, EventType.absolute, Axis.slot, Int32.ofNat index⟩

def Kernel.Record.track : Record := ⟨0, EventType.absolute, Axis.trackingId, 0⟩

namespace Slot

theorem report_of_fresh {slot : Slot} (h : Fresh slot) (index : Nat) (time : UInt64) :
    slot.report index time =
      if slot.contact.isDown then [slot.contact.transition .move index time] else [] := by
  unfold report
  dsimp only
  rw [h.owed, h.isActive]
  cases slot.contact.isDown <;> rfl

theorem report_track_of_isUp {slot : Slot} (howed : slot.owed = none)
    (hactive : slot.contact.isActive = false) (hdown : slot.contact.isDown = false) {id : Int32}
    (hid : id ≠ Kernel.noTracking) (index : Nat) (time : UInt64) :
    (slot.track id).report index time = [slot.contact.transition .down index time] := by
  unfold track report
  dsimp only
  rw [if_neg hid, hactive, hdown, howed]
  rfl

theorem report_track_of_tells {slot heard : Slot} {records : List Record} (hslot : Fresh slot)
    (h : Tells slot records heard) (hup : slot.contact.isDown = false)
    (hids : ∀ id, (values records Kernel.Axis.trackingId).getLast? = some id →
      id = Kernel.noTracking)
    {id : Int32} (hid : id ≠ Kernel.noTracking) (index : Nat) (time : UInt64) :
    (heard.forget.track id).report index time = [heard.contact.transition .down index time] := by
  have hdown : heard.contact.isDown = false := by
    rw [h.isDown, hup]
    rfl
  have howed : heard.forget.owed = none := by
    have howed := h.owed
    rw [hup, if_neg Bool.false_ne_true] at howed
    exact Option.map_eq_none_iff.1 howed
  have hactive : heard.contact.isActive = false := by
    rw [h.isActive, hslot.isActive, hup]
    cases hlast : (values records Kernel.Axis.trackingId).getLast? with
    | none => rfl
    | some id =>
      rw [hids id hlast]
      rfl
  exact report_track_of_isUp howed hactive hdown hid index time

end Slot

namespace Contact

theorem place_eq_of_transition_eq {a b : Contact} {phase other : Phase} {index : Nat}
    {time : UInt64} (h : a.transition phase index time = b.transition other index time) :
    a.place = b.place := by
  unfold transition at h
  rw [Transition.mk.injEq] at h
  unfold place
  rw [h.2.2.1, h.2.2.2.1, h.2.2.2.2.1]

variable {contact : Contact} {records : List Record} {index : Nat} {time : UInt64}

theorem restated_of_expected_move (hdown : contact.isDown = true)
    (h : contact.expected records index time = [contact.transition .move index time]) :
    (contact.overridden records).place = contact.place ∧
      ∀ id ∈ values records Kernel.Axis.trackingId, id = contact.trackingId := by
  by_cases hall : ∀ id ∈ values records Kernel.Axis.trackingId, id = contact.trackingId
  . rw [Slot.expected_of_isKept hdown hall] at h
    exact ⟨place_eq_of_transition_eq (List.singleton_inj.1 h), hall⟩
  . rw [Slot.expected_of_isLifted hdown hall] at h
    have hphase := congrArg Transition.phase (List.cons.inj h).1
    contradiction

theorem restated_of_expected_nil (hup : contact.isDown = false)
    (h : contact.expected records index time = []) :
    ∀ id, (values records Kernel.Axis.trackingId).getLast? = some id → id = Kernel.noTracking := by
  intro id hlast
  unfold expected at h
  dsimp only at h
  rw [hup, hlast, Bool.false_and, if_neg Bool.false_ne_true, if_neg Bool.false_ne_true,
    List.nil_append, ite_eq_right_iff] at h
  by_contra hid
  have hdown := h (by simpa using hid)
  contradiction

end Contact

namespace Slot

/--
If a slot reports the same with and without some records, as it is and with another contact in it,
they said nothing new.
-/
theorem isRestatedBy_of_report {slot : Slot} {records : List Record} {index : Nat} {time : UInt64}
    (hslot : Fresh slot)
    (hnamed : (slot.hearAll records).report index time = slot.report index time) {id : Int32}
    (hid : id ≠ Kernel.noTracking)
    (htracked : ((slot.hearAll records).forget.track id).report index time =
      (slot.track id).report index time) :
    slot.contact.IsRestatedBy .slotted records := by
  have h := tells_hearAll hslot records
  rw [report_hearAll hslot, report_of_fresh hslot] at hnamed
  cases hdown : slot.contact.isDown with
  | true =>
    rw [hdown, if_pos rfl] at hnamed
    obtain ⟨hplace, hids⟩ := Contact.restated_of_expected_move hdown hnamed
    exact ⟨hplace, fun _ _ => hids, fun _ hup => absurd (hdown.symm.trans hup) nofun⟩
  | false =>
    rw [hdown, if_neg Bool.false_ne_true] at hnamed
    have hids := Contact.restated_of_expected_nil hdown hnamed
    refine ⟨?_, fun _ hslotDown => absurd (hdown.symm.trans hslotDown) nofun, fun _ _ => hids⟩
    -- Nothing is told of where a contact is that is up, so it takes the other contact.
    rw [report_track_of_tells hslot h hdown hids hid,
      report_track_of_isUp hslot.owed (hslot.isActive.trans hdown) hdown hid] at htracked
    rw [← h.place]
    exact Contact.place_eq_of_transition_eq (List.singleton_inj.1 htracked)

end Slot

namespace Tracker

variable {tracker : Tracker} {record : Record} {records : List Record} {count : Nat}

def reportedAt (index : Nat) (frame : Option (List Transition)) : List Transition :=
  (frame.getD []).filter fun transition => transition.slot == index

theorem reportedAt_report (hdropped : tracker.isDropped = false)
    (hlength : tracker.slots.length ≤ maxSlots) (time : UInt64) (index : Nat) :
    reportedAt index (tracker.process (.sync time)).2 =
      (tracker.closing[index]?.map fun slot => slot.report index time).getD [] := by
  have hlength' : tracker.closing.length ≤ maxSlots := by
    rw [length_closing]
    exact hlength
  unfold reportedAt Record.sync
  rw [process_report hdropped, Option.getD_some,
    reports_eq_allReports Slot.length_report_le hlength',
    filter_allReports Slot.slot_of_mem_report]

theorem process_eq_of_framesOf_eq {other : Tracker}
    (h : other.framesOf (records ++ [record]) = tracker.framesOf (records ++ [record])) :
    ((other.feed records).process record).2 = ((tracker.feed records).process record).2 := by
  rw [framesOf_append, framesOf_append] at h
  exact (List.cons.inj (List.append_inj_right' h rfl)).1

theorem feed_select (hprotocol : tracker.protocol = .slotted)
    (hdropped : tracker.isDropped = false) (hlength : tracker.slots.length ≤ maxSlots)
    {index : Nat} (hindex : index < tracker.slots.length) :
    tracker.feed [.select index] = { tracker with current := some index } := by
  have hlt : index < 10 := Nat.lt_of_lt_of_le hindex hlength
  have htoInt : (Int32.ofNat index).toInt = index := Int32.toInt_ofNat_of_lt (by omega)
  have hselect : tracker.feed [.select index] = tracker.selectSlot (Int32.ofNat index) :=
    congrArg Prod.fst (process_of_axis?_slot hprotocol hdropped rfl)
  rw [hselect]
  unfold selectSlot
  dsimp only
  rw [htoInt, if_pos (by omega), Int.toNat_natCast]

theorem reportedAt_select (hprotocol : tracker.protocol = .slotted)
    (hdropped : tracker.isDropped = false) (hlength : tracker.slots.length ≤ maxSlots)
    {index : Nat} {slot : Slot} (hslot : tracker.slots[index]? = some slot) :
    reportedAt index ((tracker.feed [.select index]).process (.sync 0)).2 =
      slot.report index 0 := by
  obtain ⟨hindex, -⟩ := List.getElem?_eq_some_iff.1 hslot
  have hclosing : ({ tracker with current := some index } : Tracker).closing = tracker.slots := by
    unfold closing
    rw [hprotocol]
    rfl
  have hnext : ({ tracker with current := some index } : Tracker).isDropped = false := hdropped
  rw [feed_select hprotocol hdropped hlength hindex]
  apply (reportedAt_report hnext hlength 0 index).trans
  rw [hclosing, hslot]
  rfl

theorem reportedAt_track (hprotocol : tracker.protocol = .slotted)
    (hdropped : tracker.isDropped = false) (hlength : tracker.slots.length ≤ maxSlots)
    {index : Nat} {slot : Slot} (hslot : tracker.slots[index]? = some slot) :
    reportedAt index ((tracker.feed [.select index, .track]).process (.sync 0)).2 =
      (slot.track 0).report index 0 := by
  obtain ⟨hindex, -⟩ := List.getElem?_eq_some_iff.1 hslot
  have hselect := feed_select hprotocol hdropped hlength hindex
  have hkind : Record.track.kind ≠ Kernel.EventType.sync := by decide
  change reportedAt index (((tracker.feed [.select index]).process .track).1.process (.sync 0)).2 = _
  have hnext : (tracker.feed [.select index]).protocol = .slotted ∧
      (tracker.feed [.select index]).isDropped = false ∧
      (tracker.feed [.select index]).current = some index ∧
      (tracker.feed [.select index]).slots = tracker.slots := by
    rw [hselect]
    exact ⟨hprotocol, hdropped, rfl, rfl⟩
  generalize tracker.feed [.select index] = next at hnext
  obtain ⟨hprotocol, hdropped, hcurrent, hslots⟩ := hnext
  have hclosing : (next.process .track).1.closing[index]? = some (slot.track 0) := by
    unfold closing
    rw [protocol_process, hprotocol, if_neg Protocol.noConfusion, slots_process hkind hdropped,
      getElem?_modifyTarget _ hprotocol, hslots, hslot, hcurrent, Option.map_some, if_pos rfl,
      hprotocol, Slot.hear_slotted]
    rfl
  rw [reportedAt_report, hclosing]
  . rfl
  . rw [isDropped_process hkind]
    exact hdropped
  . rw [length_slots_process, hslots]
    exact hlength

theorem restated_of_framesOf_slotted (hstart : Rested tracker)
    (hrecords : ∀ record ∈ records, record.IsWithinFrame)
    (h : ∀ later, Resumes .slotted later →
      (tracker.feed records).resumed.framesOf later = tracker.framesOf later) :
    tracker.IsRestatedBy records := by
  have hheard := heard_cut hstart.protocol hstart.isDropped hrecords
  have hlength : (tracker.feed records).resumed.slots.length ≤ maxSlots := by
    change (List.map Slot.forget _).length ≤ maxSlots
    rw [List.length_map, hheard.length]
    exact hstart.length_slots_le
  have hprotocol : (tracker.feed records).resumed.protocol = .slotted := hheard.protocol
  rw [isRestatedBy_iff]
  intro index slot hslot
  unfold addressed
  rw [hstart.protocol]
  dsimp only
  generalize hgiven : given tracker.slots.length tracker.current records index = given
  have hleft : (tracker.feed records).resumed.slots[index]? = some (slot.hearAll given).forget := by
    rw [getElem?_resumed, hheard.slots, hslot, hgiven]
    rfl
  have hsame (rest : List Record) :
      reportedAt index (((tracker.feed records).resumed.feed (.select index :: rest)).process
          (.sync 0)).2 =
        reportedAt index ((tracker.feed (.select index :: rest)).process (.sync 0)).2 := by
    rw [process_eq_of_framesOf_eq]
    apply h
    exact fun _ => ⟨_, _, rfl, rfl⟩
  have hnamed := hsame []
  rw [reportedAt_select hprotocol rfl hlength hleft,
    reportedAt_select hstart.protocol hstart.isDropped hstart.length_slots_le hslot] at hnamed
  have htracked := hsame [.track]
  rw [reportedAt_track hprotocol rfl hlength hleft,
    reportedAt_track hstart.protocol hstart.isDropped hstart.length_slots_le hslot] at htracked
  have hfresh := hstart.slots slot (List.mem_of_getElem? hslot)
  exact Slot.isRestatedBy_of_report hfresh hnamed (by decide) htracked

theorem closesContact_of_placesContact (hplaces : record.placesContact = true) :
    record.closesContact = false := by
  unfold Record.placesContact at hplaces
  unfold Record.closesContact
  rw [Bool.and_eq_true, beq_iff_eq] at hplaces
  rw [hplaces.1]
  rfl

theorem isWithinFrame_of_mem_groupsOf (hplaces : record.placesContact = true) (count : Nat) :
    ∀ other ∈ Record.groupsOf record count, other.IsWithinFrame := by
  induction count with
  | zero => exact nofun
  | succ count ih =>
    unfold Record.groupsOf
    rw [List.forall_mem_append]
    refine ⟨ih, List.forall_mem_cons.2 ⟨?_, List.forall_mem_singleton.2 (by decide)⟩⟩
    intro hkind
    unfold Record.placesContact at hplaces
    rw [hkind] at hplaces
    contradiction

theorem contactCount_groupsOf (hplaces : record.placesContact = true) (count : Nat) :
    Record.contactCount (Record.groupsOf record count) = count ∧
      Record.hasOpenContact (Record.groupsOf record count) = false := by
  have hcloses := closesContact_of_placesContact hplaces
  induction count with
  | zero => exact ⟨rfl, rfl⟩
  | succ count ih =>
    unfold Record.groupsOf
    rw [List.append_cons, Record.contactCount_concat, Record.contactCount_concat,
      Record.hasOpenContact_concat, Record.hasOpenContact_concat, ih.1, ih.2, hplaces, hcloses]
    exact ⟨rfl, rfl⟩

theorem ofGroup_groupsOf (hplaces : record.placesContact = true) (index count : Nat) :
    Record.ofGroup (Record.groupsOf record count) index =
      if index < count then [record, .close] else [] := by
  induction count with
  | zero => rfl
  | succ count ih =>
    obtain ⟨hcount, -⟩ := contactCount_groupsOf hplaces count
    have hopen : Record.contactCount (Record.groupsOf record count ++ [record]) = count := by
      rw [Record.contactCount_concat, closesContact_of_placesContact hplaces, hcount]
      rfl
    unfold Record.groupsOf
    rw [List.append_cons, ofGroup_concat, ofGroup_concat, ih, hcount, hopen]
    rcases Nat.lt_trichotomy index count with hlt | rfl | hgt
    . simp [hlt, Nat.ne_of_gt hlt, Nat.lt_succ_of_lt hlt]
    . simp
    . simp [Nat.not_lt.2 (Nat.le_of_lt hgt), Nat.ne_of_lt hgt, Nat.not_lt.2 hgt]

theorem report_sweep_of_hasSeen {before slot : Slot} (h : HasSeen before true slot) (index : Nat)
    (time : UInt64) :
    slot.sweep.report index time =
      [slot.contact.transition (if before.contact.isDown then .move else .down) index time] := by
  obtain ⟨howed, hdown, hactive, hseen⟩ := h
  unfold Slot.report Slot.sweep Slot.update
  dsimp only
  rw [howed, hdown, hactive, hseen, Bool.or_true]
  rfl

theorem exists_getElem?_of_length_eq {slots others : List Slot} {index : Nat} {slot : Slot}
    (hlength : others.length = slots.length) (hslot : slots[index]? = some slot) :
    ∃ other, others[index]? = some other := by
  obtain ⟨hindex, -⟩ := List.getElem?_eq_some_iff.1 hslot
  exact ⟨_, List.getElem?_eq_getElem (hlength.symm ▸ hindex)⟩

theorem reportedAt_groupsOf (h : Awaits count tracker) (hplaces : record.placesContact = true)
    {index : Nat} {slot : Slot} (hslot : tracker.slots[index]? = some slot) :
    ∃ (contact : Contact) (phase : Phase),
      reportedAt index
          ((tracker.feed (Record.groupsOf record (index + 1))).process (.sync 0)).2 =
        [contact.transition phase index 0] ∧
      contact.place = (slot.contact.overridden [record, .close]).place := by
  obtain ⟨hindex, -⟩ := List.getElem?_eq_some_iff.1 hslot
  have hrecords := isWithinFrame_of_mem_groupsOf hplaces (index + 1)
  have hgathers := gathers_feed h hrecords
  obtain ⟨hcount, -⟩ := contactCount_groupsOf hplaces (index + 1)
  obtain ⟨next, hnext⟩ := exists_getElem?_of_length_eq hgathers.length hslot
  have hseen := hgathers.slots index next slot hnext hslot
  rw [hgathers.group, hcount, decide_eq_true (by omega)] at hseen
  have hplace := place_feed_anonymous h hrecords index next slot hnext hslot
  rw [ofGroup_groupsOf hplaces, if_pos (Nat.lt_succ_self _)] at hplace
  refine ⟨next.contact, if slot.contact.isDown then .move else .down, ?_, hplace⟩
  rw [reportedAt_report hgathers.isDropped]
  . unfold closing
    rw [if_pos hgathers.protocol, List.getElem?_map, hnext]
    exact report_sweep_of_hasSeen hseen index 0
  . rw [hgathers.length]
    exact h.groups.sound.length_slots_le

theorem groups_feed (h : Groups count tracker) (records : List Record) :
    Groups count (tracker.feed records) := by
  induction records using List.reverseRecOn with
  | nil => exact h
  | append_singleton records record ih =>
    rw [feed_concat]
    exact groups_process ih record

theorem awaits_resumed (h : Groups count tracker) : Awaits count tracker.resumed := by
  obtain ⟨hgroup, hopen, hseen⟩ := isReset_onDropped tracker
  refine ⟨⟨h.protocol, ⟨?_, ?_⟩, ?_, ?_, nofun⟩, rfl, hgroup, hopen, hseen⟩
  . exact (List.length_map _).trans_le h.sound.length_slots_le
  . intro slot hmem
    obtain ⟨before, hbefore, rfl⟩ := List.mem_map.1 hmem
    have hsound := h.sound.slots before hbefore
    exact ⟨hsound.isDown_of_owed, hsound.isActive_of_isDown, hsound.isNamed⟩
  . exact (List.length_map _).trans h.length
  . intro slot hmem
    obtain ⟨before, hbefore, rfl⟩ := List.mem_map.1 hmem
    exact h.owed before hbefore

theorem restated_of_framesOf_anonymous (hstart : Awaits count tracker)
    (hrecords : ∀ record ∈ records, record.IsWithinFrame)
    (h : ∀ later, (tracker.feed records).resumed.framesOf later = tracker.framesOf later) :
    tracker.IsRestatedBy records := by
  have hleftAwaits := awaits_resumed (groups_feed hstart.groups records)
  have hgathers := gathers_feed hstart hrecords
  rw [isRestatedBy_iff]
  intro index slot hslot
  unfold addressed
  rw [hstart.groups.protocol]
  dsimp only
  obtain ⟨heard, hheard⟩ := exists_getElem?_of_length_eq hgathers.length hslot
  have hplace := place_feed_anonymous hstart hrecords index heard slot hheard hslot
  have hleft : (tracker.feed records).resumed.slots[index]? = some heard.forget := by
    rw [getElem?_resumed, hheard]
    rfl
  have hsame (record : Record) (hplaces : record.placesContact = true) :
      (heard.contact.overridden [record, .close]).place =
        (slot.contact.overridden [record, .close]).place := by
    obtain ⟨a, phase, hreport, ha⟩ := reportedAt_groupsOf hleftAwaits hplaces hleft
    obtain ⟨b, phase', hreport', hb⟩ := reportedAt_groupsOf hstart hplaces hslot
    rw [process_eq_of_framesOf_eq (h _), hreport', List.singleton_inj] at hreport
    calc (heard.contact.overridden [record, .close]).place
        = a.place := ha.symm
      _ = b.place := (Contact.place_eq_of_transition_eq hreport).symm
      _ = (slot.contact.overridden [record, .close]).place := hb
  refine ⟨?_, nofun, nofun⟩
  rw [← hplace]
  -- A record of one coordinate brings out the other one and the pressure.
  have hx := hsame ⟨0, Kernel.EventType.absolute, Kernel.Axis.positionY, 0⟩ rfl
  have hy := hsame ⟨0, Kernel.EventType.absolute, Kernel.Axis.positionX, 0⟩ rfl
  simp only [Contact.place, Contact.overridden, Prod.mk.injEq] at hx hy ⊢
  exact ⟨hx.1, hy.2.1, hx.2.2⟩

theorem betweenFrames_of_atFrameEnd (h : AtFrameEnd .anonymous count tracker) :
    BetweenFrames count tracker := by
  cases h with
  | new => exact .new
  | frame ops record hframe =>
    obtain ⟨time, kind, code, value⟩ := record
    cases hreport : Record.isReport ⟨time, kind, code, value⟩ with
    | false =>
      rw [process_of_not_isReport hreport] at hframe
      contradiction
    | true =>
      unfold Kernel.Record.isReport at hreport
      simp only [Bool.and_eq_true, beq_iff_eq] at hreport
      obtain ⟨rfl, rfl⟩ := hreport
      exact .report ops time value

/--
A tracker goes on after a frame that was lost as if it had never begun if and only if the records of
the frame said nothing new.
-/
theorem framesOf_resumed_iff {protocol : Protocol} (hprotocol : protocol.isMultiTouch)
    (htracker : AtFrameEnd protocol count tracker)
    (hrecords : ∀ record ∈ records, record.IsWithinFrame) :
    (∀ later, Resumes protocol later →
        (tracker.feed records).resumed.framesOf later = tracker.framesOf later) ↔
      tracker.IsRestatedBy records := by
  cases protocol with
  | slotted =>
    have hstart := rested_of_atFrameEnd htracker
    constructor
    . exact restated_of_framesOf_slotted hstart hrecords
    . exact fun hrestated later hlater => framesOf_resumed_slotted hstart hrecords hrestated hlater
  | anonymous =>
    have hstart := awaits_of_betweenFrames (betweenFrames_of_atFrameEnd htracker)
    constructor
    . intro h
      exact restated_of_framesOf_anonymous hstart hrecords fun later => h later nofun
    . intro hrestated later _
      apply framesOf_of_alike
      . rw [hstart.groups.protocol]
        rfl
      . exact alike_resumed_anonymous hstart hrecords hrestated
  | single => contradiction

/--
Records are lost before a frame ends. Up to the next report no frame ends, and the contacts stay as
the frame has left them so far. So all goes on as if the frame had never begun if and only if it has
said nothing new.
-/
theorem framesOf_cut_iff {protocol : Protocol} (hprotocol : protocol.isMultiTouch)
    (htracker : AtFrameEnd protocol count tracker) {cut lost : List Record} {first last : Record}
    (hcut : ∀ record ∈ cut, record.IsWithinFrame) (hfirst : first.isLoss = true)
    (hlost : ∀ record ∈ lost, record.isReport = false) (hlast : last.isReport = true) :
    let records := cut ++ (first :: lost ++ [last])
    (∀ frame ∈ tracker.framesOf records, frame = none) ∧
      (tracker.feed records).contacts = (tracker.feed cut).contacts ∧
      ((∀ later, Resumes protocol later →
          (tracker.feed records).framesOf later = tracker.framesOf later) ↔
        tracker.IsRestatedBy cut) := by
  intro records
  obtain ⟨hafter, hframes⟩ := feed_of_isLoss (tracker.feed cut) hfirst hlost hlast
  have hresumed : ∃ count, tracker.feed records = (tracker.feed cut).resumed.recount count :=
    ⟨_, (feed_append tracker cut _).trans hafter⟩
  obtain ⟨times, hresumed⟩ := hresumed
  refine ⟨?_, ?_, ?_⟩
  . rw [framesOf_append, List.forall_mem_append]
    exact ⟨framesOf_of_not_isReport fun record hmem => isReport_of_isWithinFrame (hcut record hmem),
      hframes⟩
  . rw [hresumed]
    exact List.map_map
  . rw [← framesOf_resumed_iff hprotocol htracker hcut]
    simp only [hresumed, framesOf_recount]

/--
A frame that has moved a contact and moved it back leaves nothing when it is lost.
-/
theorem framesOf_cut_iff_returned :
    let axis (time : UInt64) (code : UInt16) (value : Int32) : Record :=
      ⟨time, Kernel.EventType.absolute, code, value⟩
    let start := ((new .slotted 1).performAll [.process (axis 0 Kernel.Axis.trackingId 4),
      .process (axis 0 Kernel.Axis.positionX 100)]).1.process (.sync 0) |>.1
    let cut := [axis 1 Kernel.Axis.positionX 300, axis 1 Kernel.Axis.positionX 100]
    let first : Record := ⟨2, Kernel.EventType.sync, Kernel.Sync.dropped, 0⟩
    Protocol.slotted.isMultiTouch = true ∧ AtFrameEnd .slotted 1 start ∧
      (∀ record ∈ cut, record.IsWithinFrame) ∧ first.isLoss = true ∧
      (Record.sync 3).isReport = true ∧
      ∀ later, Resumes .slotted later →
        (start.feed (cut ++ [first, .sync 3])).framesOf later = start.framesOf later := by
  intro axis start cut first
  have hstart : AtFrameEnd .slotted 1 start := .frame _ _ (by decide)
  have hcut : ∀ record ∈ cut, record.IsWithinFrame := by decide
  have hfirst : first.isLoss = true := by decide
  have hlast : (Record.sync 3).isReport = true := by decide
  have hrestated : start.IsRestatedBy cut := by
    intro index contact hcontact
    cases index with
    | zero =>
      obtain rfl := Option.some.inj hcontact
      have hids : values (start.addressed cut 0) Kernel.Axis.trackingId = [] := by decide
      refine ⟨by decide, ?_, ?_⟩
      . rw [hids]
        exact fun _ _ => List.forall_mem_nil _
      . rw [hids]
        exact fun _ _ => nofun
    | succ index => contradiction
  refine ⟨rfl, hstart, hcut, hfirst, hlast, ?_⟩
  exact (framesOf_cut_iff rfl hstart hcut hfirst (List.forall_mem_nil _) hlast).2.2.2 hrestated

/--
The tracking id of a frame that is lost stays: the contact that was down lifts with the next frame,
and one that no frame has brought goes down.
-/
theorem framesOf_cut_tracked :
    let axis (time : UInt64) (code : UInt16) (value : Int32) : Record :=
      ⟨time, Kernel.EventType.absolute, code, value⟩
    let start := ((new .slotted 1).performAll [.process (axis 0 Kernel.Axis.trackingId 4),
      .process (axis 0 Kernel.Axis.positionX 100),
      .process (axis 0 Kernel.Axis.positionY 200)]).1.process (.sync 0) |>.1
    let cut := [axis 1 Kernel.Axis.trackingId 9]
    let first : Record := ⟨2, Kernel.EventType.sync, Kernel.Sync.dropped, 0⟩
    let later := [axis 4 Kernel.Axis.slot 0, .sync 4]
    AtFrameEnd .slotted 1 start ∧ Resumes .slotted later ∧
      (start.feed (cut ++ [first, .sync 3])).contacts ≠ start.contacts ∧
      start.framesOf later = [none, some [⟨.move, 0, 100, 200, none, 4⟩]] ∧
      (start.feed (cut ++ [first, .sync 3])).framesOf later =
        [none, some [⟨.up, 0, 100, 200, none, 4⟩, ⟨.down, 0, 100, 200, none, 4⟩]] := by
  intro axis start cut first later
  refine ⟨.frame _ _ (by decide), fun _ => ⟨_, _, rfl, rfl⟩, ?_⟩
  decide

end Tracker

end TouchPanel
