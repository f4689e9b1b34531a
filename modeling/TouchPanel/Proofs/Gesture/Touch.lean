import TouchPanel.Proofs.Gesture.Measure
import TouchPanel.Proofs.Gesture.Report

/-!
This module contains the proof that a classifier takes each touch of a contact, from its down to its
up, for what the whole of it is (`Classifier.makes_reportAll`): a hold, a drag, a click or nothing,
as `Touch.Makes` says.

The classifier goes by what it remembers of the press. `Touch.press` says what that is after some
calls, so each call can be judged from the calls before it.
-/

namespace TouchPanel.Gesture

open Classifier (Call)

/--
A contact goes down, calls follow in which it only moves, and it lifts.
-/
structure Touch where
  down : Sample
  between : List Call
  up : Sample
  phase_down : down.phase = .down
  isQuiet_between : ∀ call ∈ between, call.IsQuiet down.id
  phase_up : up.phase = .up
  id_up : up.id = down.id

namespace Touch

variable (reference : Reference) (touch : Touch)

def rest : List Call := touch.between ++ [.handle touch.up]

def calls : List Call := .handle touch.down :: touch.rest

def start : Point := reference.point touch.down

def seen (calls : List Call) : List Point := calls.filterMap (Call.point? reference touch.down.id)

def last (calls : List Call) : Point :=
  (touch.seen reference calls).getLast?.getD (touch.start reference)

structure HoldsAt (before : List Call) (call : Call) : Prop where
  concerns : call.Concerns touch.down.id
  late : touch.down.time.toNat + 500 ≤ call.time.toNat
  near : ∀ point ∈ touch.seen reference (before ++ [call]), (touch.start reference).IsNear point

def LeadsAt (axis : Axis) (call : Call) : Prop :=
  ∃ point, call.point? reference touch.down.id = some point ∧
    (touch.start reference).Leads point axis

structure IsShort : Prop where
  soon : touch.up.time.toNat < touch.down.time.toNat + 300
  near : ∀ point ∈ touch.seen reference touch.rest, (touch.start reference).IsNear point

def gesture (kind : Kind) (calls : List Call) (now : UInt64) (dx dy : Int) : Gesture :=
  { kind
    id := touch.down.id
    point := touch.last reference calls
    start := touch.start reference
    dx, dy
    time := now
    duration := Time.elapsed touch.down.time now }

def wholeWay (kind : Kind) (calls : List Call) (now : UInt64) : Gesture :=
  touch.gesture reference kind calls now
    ((touch.last reference calls).x - (touch.start reference).x)
    ((touch.last reference calls).y - (touch.start reference).y)

def stepAt (axis : Axis) (before : List Call) (call : Call) : List Gesture :=
  match call.point? reference touch.down.id with
  | some point =>
    let last := touch.last reference before
    if point = last then
      []
    else
      [touch.gesture reference (.drag axis) (before ++ [call]) call.time (point.x - last.x)
        (point.y - last.y)]
  | none => []

def steps (axis : Axis) (before : List Call) : List Call → List (List Gesture)
  | [] => []
  | call :: calls =>
    touch.stepAt reference axis before call :: steps axis (before ++ [call]) calls

def silent (calls : List Call) : List (List Gesture) := calls.map fun _ => []

/--
What the calls after the down report, and what the touch is taken for. The first call at which the
contact has rested makes it a hold. Otherwise the first move that leads makes it a drag, which ends
with the touch. Otherwise a short touch is a click.
-/
inductive Makes : List (List Gesture) → Class → Prop where
  | hold {before after : List Call} {call : Call}
    (hfirst : IsFirst (touch.HoldsAt reference) touch.rest before call after) :
    Makes
      (silent before ++
        [touch.gesture reference .hold (before ++ [call]) call.time 0 0] :: silent after)
      .hold
  | drag {axis : Axis} {before after : List Call} {call : Call}
    (hhold : Never (touch.HoldsAt reference) touch.rest)
    (hfirst : IsFirst (fun _ call => ∃ axis, touch.LeadsAt reference axis call) touch.between
      before call after)
    (haxis : touch.LeadsAt reference axis call) :
    Makes
      (silent before ++
        [touch.wholeWay reference (.drag axis) (before ++ [call]) call.time] ::
          touch.steps reference axis (before ++ [call]) after ++
        [[touch.wholeWay reference
          (.dragEnd axis
            (swipe? axis ((touch.last reference touch.rest).x - (touch.start reference).x)))
          touch.rest touch.up.time]])
      (.drag axis)
  | click
    (hhold : Never (touch.HoldsAt reference) touch.rest)
    (hdrag : Never (fun _ call => ∃ axis, touch.LeadsAt reference axis call) touch.between)
    (hshort : touch.IsShort reference) :
    Makes (silent touch.between ++ [[touch.gesture reference .click touch.rest touch.up.time 0 0]])
      .click
  | nothing
    (hhold : Never (touch.HoldsAt reference) touch.rest)
    (hdrag : Never (fun _ call => ∃ axis, touch.LeadsAt reference axis call) touch.between)
    (hshort : ¬ touch.IsShort reference) :
    Makes (silent touch.rest) .potential

def press (calls : List Call) : Press :=
  { id := touch.down.id
    since := touch.down.time
    start := touch.start reference
    last := touch.last reference calls
    reach := (touch.seen reference calls).foldl
      (fun reach point => max reach (Precision.word.squaredDistance point (touch.start reference)))
      0 }

theorem seen_concat (calls : List Call) (call : Call) :
    touch.seen reference (calls ++ [call]) =
      touch.seen reference calls ++ (call.point? reference touch.down.id).toList := by
  unfold seen
  rw [List.filterMap_append]
  cases hpoint : call.point? reference touch.down.id <;> simp [hpoint]

theorem last_concat_of_some {call : Call} {point : Point}
    (h : call.point? reference touch.down.id = some point) (calls : List Call) :
    touch.last reference (calls ++ [call]) = point := by
  unfold last
  rw [seen_concat, h, Option.toList_some, List.getLast?_concat, Option.getD_some]

theorem press_concat_of_some {call : Call} {point : Point}
    (h : call.point? reference touch.down.id = some point) (calls : List Call) :
    touch.press reference (calls ++ [call]) =
      (touch.press reference calls).observe .word point := by
  unfold press Press.observe
  dsimp only
  rw [last_concat_of_some reference touch h, seen_concat, h, Option.toList_some, List.foldl_append,
    List.foldl_cons, List.foldl_nil]

theorem press_concat_of_none {call : Call} (h : call.point? reference touch.down.id = none)
    (calls : List Call) :
    touch.press reference (calls ++ [call]) = touch.press reference calls := by
  unfold press last
  rw [seen_concat, h, Option.toList_none, List.append_nil]

theorem isResting_press_iff (calls : List Call) :
    (touch.press reference calls).isResting = true ↔
      ∀ point ∈ touch.seen reference calls, (touch.start reference).IsNear point := by
  unfold Press.isResting press
  dsimp only
  rw [decide_eq_true_iff]
  induction touch.seen reference calls using List.reverseRecOn with
  | nil => simp [dragThreshold]
  | append_singleton points point ih =>
    rw [List.foldl_append, List.foldl_cons, List.foldl_nil, max_lt_iff, ih,
      Precision.squaredDistance_word_lt_iff, List.forall_mem_append, List.forall_mem_singleton]

theorem isHeld_press_iff (calls : List Call) (now : UInt64) :
    (touch.press reference calls).isHeld now = true ↔
      touch.down.time.toNat + 500 ≤ now.toNat ∧
        ∀ point ∈ touch.seen reference calls, (touch.start reference).IsNear point := by
  unfold Press.isHeld
  rw [Bool.and_eq_true, isResting_press_iff, decide_eq_true_iff, UInt64.le_iff_toNat_le,
    Time.toNat_elapsed]
  have hlate : holdThreshold.toNat ≤ now.toNat - (touch.press reference calls).since.toNat ↔
      touch.down.time.toNat + 500 ≤ now.toNat := by
    have hthreshold : holdThreshold.toNat = 500 := rfl
    have hsince : (touch.press reference calls).since = touch.down.time := rfl
    rw [hthreshold, hsince]
    omega
  rw [hlate]

theorem holdsAt_iff (before : List Call) (call : Call) :
    touch.HoldsAt reference before call ↔
      call.Concerns touch.down.id ∧
        (touch.press reference (before ++ [call])).isHeld call.time = true := by
  rw [isHeld_press_iff]
  exact ⟨fun h => ⟨h.concerns, h.late, h.near⟩, fun h => ⟨h.1, h.2.1, h.2.2⟩⟩

instance (before : List Call) (call : Call) : Decidable (touch.HoldsAt reference before call) :=
  decidable_of_iff _ (holdsAt_iff reference touch before call).symm

def within (stage : Stage) : Classifier := ⟨reference, .enter stage⟩

variable {reference touch} {before : List Call} {call : Call}

theorem quiet_cases (hquiet : call.IsQuiet touch.down.id) :
    (∃ now, call = .tick now) ∨ (∃ sample, call = .handle sample ∧ sample.id ≠ touch.down.id) ∨
      ∃ sample, call = .handle sample ∧ sample.id = touch.down.id ∧ sample.phase = .move := by
  cases call with
  | tick now => exact Or.inl ⟨now, rfl⟩
  | handle sample =>
    apply Or.inr
    by_cases hid : sample.id = touch.down.id
    . exact Or.inr ⟨sample, rfl, hid, hquiet hid⟩
    . exact Or.inl ⟨sample, rfl, hid⟩

theorem gesture_eq (kind : Kind) (calls : List Call) (now : UInt64) (dx dy : Int) :
    touch.gesture reference kind calls now dx dy =
      (touch.press reference calls).gesture kind now dx dy := rfl

theorem heard_eq {sample : Sample} (hid : sample.id = touch.down.id) {phase : Phase}
    (hphase : sample.phase = phase) (stage : Stage) (before : List Call) :
    (within reference stage).heard (.handle sample) =
      .touch phase (touch.press reference before).id (reference.point sample) sample.time := by
  have hpress : (touch.press reference before).id = sample.id := hid.symm
  rw [hpress, ← hphase]
  rfl

theorem perform_within_pressed (hquiet : call.IsQuiet touch.down.id) :
    (within reference (.pressed (touch.press reference before))).perform call =
      if touch.HoldsAt reference before call then
        (within reference (.holding (touch.press reference (before ++ [call]))),
          [touch.gesture reference .hold (before ++ [call]) call.time 0 0])
      else
        match (call.point? reference touch.down.id).bind fun point =>
          Precision.word.dragAxis? (point.x - (touch.start reference).x)
            (point.y - (touch.start reference).y) with
        | some axis =>
          (within reference (.dragging axis (touch.press reference (before ++ [call]))),
            [touch.wholeWay reference (.drag axis) (before ++ [call]) call.time])
        | none => (within reference (.pressed (touch.press reference (before ++ [call]))), []) := by
  simp only [holdsAt_iff, gesture_eq, wholeWay]
  rw [Classifier.perform_eq_step]
  rcases quiet_cases hquiet with ⟨now, rfl⟩ | ⟨sample, rfl, hid⟩ | ⟨sample, rfl, hid, hphase⟩
  . have hconcerns : Call.Concerns touch.down.id (.tick now) := trivial
    rw [press_concat_of_none reference touch rfl]
    simp only [hconcerns, true_and]
    cases hheld : (touch.press reference before).isHeld now <;>
      simp [within, Classifier.heard, Recognizer.enter, Recognizer.step, Recognizer.stepPressed,
        Call.point?, Call.time, hheld]
  . have hpoint : Call.point? reference touch.down.id (.handle sample) = none := if_neg hid
    have hconcerns : ¬ Call.Concerns touch.down.id (.handle sample) := hid
    rw [press_concat_of_none reference touch hpoint, hpoint]
    simp only [hconcerns, false_and]
    simp [within, Classifier.heard, Classifier.signal, Recognizer.enter, Recognizer.step,
      Recognizer.stepPressed, press, hid]
  . have hpoint : Call.point? reference touch.down.id (.handle sample) =
        some (reference.point sample) := if_pos hid
    have hconcerns : Call.Concerns touch.down.id (.handle sample) := hid
    rw [press_concat_of_some reference touch hpoint, hpoint, heard_eq hid hphase _ before,
      last_concat_of_some reference touch hpoint, Option.bind_some, within,
      Recognizer.step_enter_pressed_move]
    have htime : Call.time (.handle sample) = sample.time := rfl
    simp only [hconcerns, true_and]
    rw [htime]
    split
    . rfl
    . have hstart : (touch.press reference before).start = touch.start reference := rfl
      rw [hstart]
      cases Precision.word.dragAxis? ((reference.point sample).x - (touch.start reference).x)
        ((reference.point sample).y - (touch.start reference).y) <;> rfl

theorem dragAxis?_eq_some_iff {axis : Axis} :
    ((call.point? reference touch.down.id).bind fun point =>
        Precision.word.dragAxis? (point.x - (touch.start reference).x)
          (point.y - (touch.start reference).y)) = some axis ↔
      touch.LeadsAt reference axis call := by
  unfold LeadsAt
  simp only [Option.bind_eq_some_iff, Precision.dragAxis?_word_eq_some_iff]

theorem dragAxis?_eq_none_iff :
    ((call.point? reference touch.down.id).bind fun point =>
        Precision.word.dragAxis? (point.x - (touch.start reference).x)
          (point.y - (touch.start reference).y)) = none ↔
      ¬ ∃ axis, touch.LeadsAt reference axis call := by
  rw [Option.eq_none_iff_forall_ne_some]
  simp only [ne_eq, dragAxis?_eq_some_iff, not_exists]

theorem perform_within_holding (hquiet : call.IsQuiet touch.down.id) :
    (within reference (.holding (touch.press reference before))).perform call =
      (within reference (.holding (touch.press reference (before ++ [call]))), []) := by
  rw [Classifier.perform_eq_step]
  rcases quiet_cases hquiet with ⟨now, rfl⟩ | ⟨sample, rfl, hid⟩ | ⟨sample, rfl, hid, hphase⟩
  . rw [press_concat_of_none reference touch rfl]
    rfl
  . have hpoint : Call.point? reference touch.down.id (.handle sample) = none := if_neg hid
    rw [press_concat_of_none reference touch hpoint]
    simp [within, Classifier.heard, Classifier.signal, Recognizer.enter, Recognizer.step,
      Recognizer.stepHolding, press, hid]
  . have hpoint : Call.point? reference touch.down.id (.handle sample) =
        some (reference.point sample) := if_pos hid
    rw [press_concat_of_some reference touch hpoint, heard_eq hid hphase _ before]
    simp [within, Recognizer.enter, Recognizer.step, Recognizer.stepHolding, Stage.phase]

theorem perform_within_dragging {axis : Axis} (hquiet : call.IsQuiet touch.down.id) :
    (within reference (.dragging axis (touch.press reference before))).perform call =
      (within reference (.dragging axis (touch.press reference (before ++ [call]))),
        touch.stepAt reference axis before call) := by
  rw [Classifier.perform_eq_step]
  unfold stepAt
  rcases quiet_cases hquiet with ⟨now, rfl⟩ | ⟨sample, rfl, hid⟩ | ⟨sample, rfl, hid, hphase⟩
  . rw [press_concat_of_none reference touch rfl]
    rfl
  . have hpoint : Call.point? reference touch.down.id (.handle sample) = none := if_neg hid
    rw [press_concat_of_none reference touch hpoint, hpoint]
    simp [within, Classifier.heard, Classifier.signal, Recognizer.enter, Recognizer.step,
      Recognizer.stepDragging, press, hid]
  . have hpoint : Call.point? reference touch.down.id (.handle sample) =
        some (reference.point sample) := if_pos hid
    rw [press_concat_of_some reference touch hpoint, hpoint, heard_eq hid hphase _ before, within,
      Recognizer.step_enter_dragging_move]
    dsimp only
    rw [gesture_eq, press_concat_of_some reference touch hpoint]
    rfl

theorem reportAll_within_pressed {calls : List Call}
    (hquiet : ∀ call ∈ calls, call.IsQuiet touch.down.id)
    (hhold : Never (touch.HoldsAt reference) calls)
    (hdrag : Never (fun _ call => ∃ axis, touch.LeadsAt reference axis call) calls) :
    (within reference (.pressed (touch.press reference []))).reportAll calls =
      (within reference (.pressed (touch.press reference calls)), silent calls) := by
  induction calls using List.reverseRecOn with
  | nil => rfl
  | append_singleton calls call ih =>
    rw [never_concat_iff] at hhold hdrag
    rw [List.forall_mem_append, List.forall_mem_singleton] at hquiet
    rw [Classifier.reportAll_append, ih hquiet.1 hhold.1 hdrag.1, Classifier.reportAll_cons,
      perform_within_pressed hquiet.2, if_neg hhold.2, dragAxis?_eq_none_iff.2 hdrag.2]
    unfold silent
    rw [List.map_append]
    rfl

theorem reportAll_within_holding {calls : List Call}
    (hquiet : ∀ call ∈ calls, call.IsQuiet touch.down.id) :
    (within reference (.holding (touch.press reference before))).reportAll calls =
      (within reference (.holding (touch.press reference (before ++ calls))), silent calls) := by
  induction calls generalizing before with
  | nil =>
    rw [List.append_nil]
    rfl
  | cons call calls ih =>
    rw [List.forall_mem_cons] at hquiet
    rw [Classifier.reportAll_cons, perform_within_holding hquiet.1, ih hquiet.2,
      List.append_assoc]
    rfl

theorem reportAll_within_dragging {axis : Axis} {calls : List Call}
    (hquiet : ∀ call ∈ calls, call.IsQuiet touch.down.id) :
    (within reference (.dragging axis (touch.press reference before))).reportAll calls =
      (within reference (.dragging axis (touch.press reference (before ++ calls))),
        touch.steps reference axis before calls) := by
  induction calls generalizing before with
  | nil =>
    rw [List.append_nil]
    rfl
  | cons call calls ih =>
    rw [List.forall_mem_cons] at hquiet
    rw [Classifier.reportAll_cons, perform_within_dragging hquiet.1, ih hquiet.2,
      List.append_assoc]
    rfl

theorem point?_up : (Call.handle touch.up).point? reference touch.down.id =
    some (reference.point touch.up) := if_pos touch.id_up

theorem last_rest : touch.last reference touch.rest = reference.point touch.up :=
  last_concat_of_some reference touch point?_up touch.between

theorem press_rest : touch.press reference touch.rest =
    (touch.press reference touch.between).observe .word (reference.point touch.up) :=
  press_concat_of_some reference touch point?_up touch.between

theorem perform_up (stage : Stage) :
    (within reference stage).perform (.handle touch.up) =
      (⟨reference, ((Recognizer.enter stage).step .word
          (.touch .up (touch.press reference touch.between).id (reference.point touch.up)
            touch.up.time)).1⟩,
        ((Recognizer.enter stage).step .word
          (.touch .up (touch.press reference touch.between).id (reference.point touch.up)
            touch.up.time)).2) := by
  rw [Classifier.perform_eq_step, heard_eq touch.id_up touch.phase_up stage touch.between]
  rfl

theorem isShort_iff : touch.IsShort reference ↔
    (Time.elapsed (touch.press reference touch.between).since touch.up.time < clickTimeout &&
      (touch.press reference touch.rest).isResting) = true := by
  rw [Bool.and_eq_true, isResting_press_iff, decide_eq_true_iff, UInt64.lt_iff_toNat_lt,
    Time.toNat_elapsed]
  have hthreshold : clickTimeout.toNat = 300 := rfl
  have hsince : (touch.press reference touch.between).since = touch.down.time := rfl
  rw [hthreshold, hsince]
  constructor
  . intro h
    have hsoon := h.soon
    exact ⟨by omega, h.near⟩
  . rintro ⟨hsoon, hnear⟩
    exact ⟨by omega, hnear⟩

instance : Decidable (touch.IsShort reference) := decidable_of_iff _ isShort_iff.symm

def lifted (reference : Reference) (outcome : Class) : Classifier := ⟨reference, .idle, outcome⟩

theorem perform_up_within_pressed :
    (within reference (.pressed (touch.press reference touch.between))).perform (.handle touch.up) =
      if touch.HoldsAt reference touch.between (.handle touch.up) then
        (lifted reference .hold, [touch.gesture reference .hold touch.rest touch.up.time 0 0])
      else if touch.IsShort reference then
        (lifted reference .click, [touch.gesture reference .click touch.rest touch.up.time 0 0])
      else
        (lifted reference .potential, []) := by
  have hconcerns : Call.Concerns touch.down.id (.handle touch.up) := touch.id_up
  have htime : Call.time (.handle touch.up) = touch.up.time := rfl
  have hrest : touch.between ++ [.handle touch.up] = touch.rest := rfl
  simp only [holdsAt_iff, isShort_iff, gesture_eq, hconcerns, true_and]
  rw [htime, hrest, press_rest, perform_up, Recognizer.step_enter_pressed_up]
  split
  . rfl
  . split <;> rfl

theorem perform_up_within_holding :
    (within reference (.holding (touch.press reference touch.between))).perform (.handle touch.up) =
      (lifted reference .hold, []) := by
  rw [perform_up]
  simp [Recognizer.enter, Recognizer.step, Recognizer.stepHolding, Stage.phase, lifted]

theorem perform_up_within_dragging (axis : Axis) :
    (within reference (.dragging axis (touch.press reference touch.between))).perform
        (.handle touch.up) =
      (lifted reference (.drag axis),
        [touch.wholeWay reference
          (.dragEnd axis
            (swipe? axis ((touch.last reference touch.rest).x - (touch.start reference).x)))
          touch.rest touch.up.time]) := by
  rw [perform_up, Recognizer.step_enter_dragging_up]
  unfold wholeWay
  rw [last_rest, gesture_eq, press_rest, Precision.swipe?_word]
  rfl

theorem never_leadsAt_of_holdsAt (h : touch.HoldsAt reference before call) :
    Never (fun _ call => ∃ axis, touch.LeadsAt reference axis call) before := by
  rintro earlier other later rfl ⟨axis, point, hpoint, hleads⟩
  apply Point.not_isNear_of_leads hleads
  apply h.near
  unfold seen
  rw [List.mem_filterMap]
  exact ⟨other, by simp, hpoint⟩

theorem isQuiet_of_between_eq_append {after : List Call}
    (h : touch.between = before ++ call :: after) :
    (∀ call ∈ before, call.IsQuiet touch.down.id) ∧ call.IsQuiet touch.down.id ∧
      ∀ call ∈ after, call.IsQuiet touch.down.id := by
  have hquiet := touch.isQuiet_between
  rw [h, List.forall_mem_append, List.forall_mem_cons] at hquiet
  exact hquiet

theorem rest_eq_append_cases {after : List Call} (h : touch.rest = before ++ call :: after) :
    (before = touch.between ∧ call = .handle touch.up ∧ after = []) ∨
      ∃ later, touch.between = before ++ call :: later ∧ after = later ++ [.handle touch.up] := by
  unfold rest at h
  rcases List.eq_nil_or_concat after with rfl | ⟨later, last, rfl⟩
  . obtain ⟨hbetween, hup⟩ := List.append_inj' h rfl
    exact Or.inl ⟨hbetween.symm, (List.singleton_inj.1 hup).symm, rfl⟩
  . rw [List.concat_eq_append, ← List.cons_append, ← List.append_assoc] at h
    obtain ⟨hbetween, hup⟩ := List.append_inj' h rfl
    exact Or.inr ⟨later, hbetween, by rw [List.concat_eq_append, hup]⟩

theorem reportAll_rest_of_holdsAt {after : List Call}
    (hfirst : IsFirst (touch.HoldsAt reference) touch.rest before call after) :
    (within reference (.pressed (touch.press reference []))).reportAll touch.rest =
      (lifted reference .hold,
        silent before ++
          [touch.gesture reference .hold (before ++ [call]) call.time 0 0] :: silent after) := by
  have hdrag := never_leadsAt_of_holdsAt hfirst.property
  rcases rest_eq_append_cases hfirst.eq_append with ⟨rfl, rfl, rfl⟩ | ⟨later, hbetween, rfl⟩
  . rw [hfirst.eq_append, Classifier.reportAll_append,
      reportAll_within_pressed touch.isQuiet_between hfirst.never hdrag, Classifier.reportAll_cons,
      perform_up_within_pressed, if_pos hfirst.property]
    rfl
  . obtain ⟨hbefore, hcall, hlater⟩ := isQuiet_of_between_eq_append hbetween
    have hwhole : before ++ [call] ++ later = touch.between := by
      rw [hbetween]
      simp
    rw [hfirst.eq_append, Classifier.reportAll_append,
      reportAll_within_pressed hbefore hfirst.never hdrag, Classifier.reportAll_cons,
      perform_within_pressed hcall, if_pos hfirst.property, Classifier.reportAll_append,
      reportAll_within_holding hlater, hwhole, Classifier.reportAll_cons,
      perform_up_within_holding]
    unfold silent
    rw [List.map_append]
    rfl

theorem reportAll_rest_of_leadsAt {after : List Call} {axis : Axis}
    (hhold : Never (touch.HoldsAt reference) touch.rest)
    (hfirst : IsFirst (fun _ call => ∃ axis, touch.LeadsAt reference axis call) touch.between
      before call after)
    (haxis : touch.LeadsAt reference axis call) :
    (within reference (.pressed (touch.press reference []))).reportAll touch.rest =
      (lifted reference (.drag axis),
        silent before ++
          [touch.wholeWay reference (.drag axis) (before ++ [call]) call.time] ::
            touch.steps reference axis (before ++ [call]) after ++
          [[touch.wholeWay reference
            (.dragEnd axis
              (swipe? axis ((touch.last reference touch.rest).x - (touch.start reference).x)))
            touch.rest touch.up.time]]) := by
  obtain ⟨hbefore, hcall, hafter⟩ := isQuiet_of_between_eq_append hfirst.eq_append
  have hwhole : before ++ [call] ++ after = touch.between := by
    rw [hfirst.eq_append]
    simp
  have hrest : touch.rest = before ++ call :: (after ++ [.handle touch.up]) := by
    unfold rest
    rw [hfirst.eq_append]
    simp
  have hearly : Never (touch.HoldsAt reference) before := by
    rw [hrest] at hhold
    exact never_of_append hhold
  rw [hrest, Classifier.reportAll_append, reportAll_within_pressed hbefore hearly hfirst.never,
    Classifier.reportAll_cons, perform_within_pressed hcall, if_neg (hhold before call _ hrest),
    dragAxis?_eq_some_iff.2 haxis]
  dsimp only
  rw [Classifier.reportAll_append, reportAll_within_dragging hafter, hwhole,
    Classifier.reportAll_cons, perform_up_within_dragging, ← hrest]
  simp [Classifier.reportAll]

theorem reportAll_rest_of_never (hhold : Never (touch.HoldsAt reference) touch.rest)
    (hdrag : Never (fun _ call => ∃ axis, touch.LeadsAt reference axis call) touch.between) :
    (within reference (.pressed (touch.press reference []))).reportAll touch.rest =
      if touch.IsShort reference then
        (lifted reference .click, silent touch.between ++
          [[touch.gesture reference .click touch.rest touch.up.time 0 0]])
      else
        (lifted reference .potential, silent touch.rest) := by
  have hrest : touch.rest = touch.between ++ [.handle touch.up] := rfl
  rw [hrest, never_concat_iff] at hhold
  rw [hrest, Classifier.reportAll_append,
    reportAll_within_pressed touch.isQuiet_between hhold.1 hdrag, Classifier.reportAll_cons,
    perform_up_within_pressed, if_neg hhold.2]
  split
  . rfl
  . unfold silent
    rw [List.map_append]
    rfl

end Touch

namespace Classifier

theorem perform_down {classifier : Classifier} (hidle : classifier.phase = .idle) (touch : Touch) :
    classifier.perform (.handle touch.down) =
      (Touch.within classifier.reference (.pressed (touch.press classifier.reference [])), []) := by
  have hstage : classifier.recognizer.stage = .idle := by
    unfold phase at hidle
    cases hstage : classifier.recognizer.stage with
    | idle => rfl
    | pressed press | holding press | dragging axis press =>
      rw [hstage] at hidle
      contradiction
  have hheard : classifier.heard (.handle touch.down) =
      .touch .down touch.down.id (classifier.reference.point touch.down) touch.down.time := by
    rw [← touch.phase_down]
    rfl
  rw [perform_eq_step, hheard]
  unfold Recognizer.step
  rw [hstage]
  rfl

/--
A classifier that follows no contact takes a touch for what the whole of it is, and follows no
contact again afterwards.
-/
theorem makes_reportAll {classifier : Classifier} (hidle : classifier.phase = .idle)
    (touch : Touch) :
    ∃ reported,
      (classifier.reportAll touch.calls).2 = [] :: reported ∧
      touch.Makes classifier.reference reported
        (classifier.reportAll touch.calls).1.recognizer.outcome ∧
      (classifier.reportAll touch.calls).1.phase = .idle ∧
      (classifier.reportAll touch.calls).1.primary? = none := by
  unfold Touch.calls
  rw [reportAll_cons, perform_down hidle]
  rcases never_or_exists_isFirst (touch.HoldsAt classifier.reference) touch.rest with
    hhold | ⟨before, call, after, hfirst⟩
  . rcases never_or_exists_isFirst
        (fun _ call => ∃ axis, touch.LeadsAt classifier.reference axis call) touch.between with
      hdrag | ⟨before, call, after, hfirst⟩
    . rw [Touch.reportAll_rest_of_never hhold hdrag]
      split
      . next hshort => exact ⟨_, rfl, .click hhold hdrag hshort, rfl, rfl⟩
      . next hshort => exact ⟨_, rfl, .nothing hhold hdrag hshort, rfl, rfl⟩
    . obtain ⟨axis, haxis⟩ := hfirst.property
      rw [Touch.reportAll_rest_of_leadsAt hhold hfirst haxis]
      exact ⟨_, rfl, .drag hhold hfirst haxis, rfl, rfl⟩
  . rw [Touch.reportAll_rest_of_holdsAt hfirst]
    exact ⟨_, rfl, .hold hfirst, rfl, rfl⟩

/--
A contact moves to the right while another one is seen, and lifts.
-/
theorem makes_reportAll_moved :
    let seen (id : UInt32) (phase : Phase) (x : Float32) (now : UInt64) : Sample :=
      ⟨phase, id, x, 0.5, 1, now, .touch⟩
    let touch : Touch :=
      { down := seen 1 .down 0.25 0
        between := [.tick 100, .handle (seen 2 .down 0 150), .handle (seen 1 .move 0.5 600)]
        up := seen 1 .up 0.5 700
        phase_down := rfl
        isQuiet_between := by decide
        phase_up := rfl
        id_up := rfl }
    (new .standard).phase = .idle ∧
      ((new .standard).reportAll touch.calls).2.map (List.map Gesture.kind) =
        [[], [], [], [.drag .horizontal], [.dragEnd .horizontal (some .right)]] ∧
      ∃ reported, touch.Makes .standard reported (.drag .horizontal) := by
  intro seen touch
  refine ⟨rfl, by decide +kernel, ?_⟩
  have hidle : (new .standard).phase = .idle := rfl
  obtain ⟨reported, -, hmakes, -⟩ := makes_reportAll hidle touch
  have houtcome : ((new .standard).reportAll touch.calls).1.recognizer.outcome =
      .drag .horizontal := by decide +kernel
  rw [houtcome] at hmakes
  exact ⟨reported, hmakes⟩

/--
On a very large surface a contact can move twice as far along one axis as across it, and still start
no drag: the way across is too long to be compared.
-/
theorem reportAll_calls_too_wide :
    let reference : Reference := ⟨100000000, 100000000⟩
    let seen (phase : Phase) (x y : Float32) (now : UInt64) : Sample :=
      ⟨phase, 1, x, y, 1, now, .touch⟩
    let move := seen .move 0.5 0.25 100
    let touch : Touch :=
      { down := seen .down 0 0 0
        between := [.handle move]
        up := seen .up 0.5 0.25 200
        phase_down := rfl
        isQuiet_between := by decide
        phase_up := rfl
        id_up := rfl }
    let dx := (reference.point move).x - (touch.start reference).x
    let dy := (reference.point move).y - (touch.start reference).y
    (new reference).phase = .idle ∧
      Never (touch.HoldsAt reference) touch.rest ∧
      (10 < dx.natAbs ∧ 3 * dy.natAbs < 2 * dx.natAbs) ∧
      ((new reference).reportAll touch.calls).2 = [[], [], []] := by
  intro reference seen move touch dx dy
  refine ⟨rfl, ?_, by decide +kernel, by decide +kernel⟩
  have hsoon : ∀ call ∈ touch.rest, call.time.toNat < 500 := by decide
  rintro before call after hrest hholds
  have hlate := hholds.late
  have hcall := hsoon call (by simp [hrest])
  omega

end Classifier

end TouchPanel.Gesture
