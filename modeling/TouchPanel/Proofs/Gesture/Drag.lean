import Mathlib.Algebra.Ring.Int.Defs
import TouchPanel.Proofs.Gesture.Report
import TouchPanel.Proofs.Gesture.Tick

/-!
This module contains the proof that the steps of a drag lead from its start to where the contact has
moved last, and each of them to where it is reported (`Classifier.walk_performAll`). So the end of
the drag, which tells the whole way, is their sum and the way from the last move.

The argument is about the press that the machine follows, which began with a call that is found
among those so far (`Classifier.IsPresent`).
-/

namespace TouchPanel.Gesture

def Point.walk (start : Point) (steps : List Gesture) : Point :=
  ⟨start.x + (steps.map Gesture.dx).sum, start.y + (steps.map Gesture.dy).sum⟩

/--
Each step is reported at the point that the steps up to it lead to.
-/
def IsTrail (start : Point) (steps : List Gesture) : Prop :=
  ∀ (index : Nat) (step : Gesture), steps[index]? = some step →
    step.point = start.walk (steps.take (index + 1))

theorem walk_nil (start : Point) : start.walk [] = start := by
  unfold Point.walk
  simp

theorem walk_concat (start : Point) (steps : List Gesture) (step : Gesture) :
    start.walk (steps ++ [step]) =
      ⟨(start.walk steps).x + step.dx, (start.walk steps).y + step.dy⟩ := by
  unfold Point.walk
  simp [Int.add_assoc]

theorem isTrail_nil (start : Point) : IsTrail start [] := by
  intro index step hstep
  rw [List.getElem?_nil] at hstep
  contradiction

theorem isTrail_concat {start : Point} {steps : List Gesture} {step : Gesture}
    (h : IsTrail start steps) (hstep : step.point = start.walk (steps ++ [step])) :
    IsTrail start (steps ++ [step]) := by
  intro index other hother
  rcases Nat.lt_trichotomy index steps.length with hlt | rfl | hgt
  . rw [List.getElem?_append_left hlt] at hother
    rw [List.take_append_of_le_length hlt]
    exact h index other hother
  . rw [List.getElem?_concat_length] at hother
    obtain rfl := Option.some.inj hother
    have hall : (steps ++ [step]).length ≤ steps.length + 1 := Nat.le_of_eq List.length_append
    rw [List.take_of_length_le hall]
    exact hstep
  . rw [List.getElem?_eq_none] at hother
    . contradiction
    . rw [List.length_append, List.length_singleton]
      exact hgt

namespace Stage

/--
How a signal leads into a drag or carries on with it: only a move of the followed contact counts.
-/
inductive Drags (precision : Precision) (axis : Axis) :
    Stage → Signal → List Gesture → Press → Prop where
  | rest {press : Press} {signal : Signal}
    (h : ∀ point now, signal ≠ .touch .move press.id point now) :
    Drags precision axis (.dragging axis press) signal [] press
  | first {press : Press} {point : Point} {now : UInt64} :
    Drags precision axis (.pressed press) (.touch .move press.id point now)
      [(press.observe precision point).gesture (.drag axis) now (point.x - press.start.x)
        (point.y - press.start.y)]
      (press.observe precision point)
  | next {press : Press} {point : Point} {now : UInt64} :
    Drags precision axis (.dragging axis press) (.touch .move press.id point now)
      (if point = press.last then
        []
      else
        [(press.observe precision point).gesture (.drag axis) now (point.x - press.last.x)
          (point.y - press.last.y)])
      (press.observe precision point)

theorem primary?_of_fits {stage : Stage} {interaction : Interaction} (h : stage.Fits interaction)
    (hfollows : stage.primary? ≠ none) : stage.primary? = some interaction.id := by
  unfold primary? at hfollows ⊢
  cases hpress : stage.press? with
  | none =>
    rw [hpress] at hfollows
    contradiction
  | some press => exact congrArg some (h.press press hpress).1

theorem dragging_of_phase {stage : Stage} {axis : Axis} (h : stage.phase = .drag axis) :
    ∃ press, stage = .dragging axis press := by
  cases stage with
  | dragging _ press =>
    obtain rfl := Class.drag.inj h
    exact ⟨press, rfl⟩
  | idle | pressed | holding => contradiction

end Stage

namespace Recognizer

variable {precision : Precision} {recognizer : Recognizer} {press later : Press} {axis : Axis}
  {signal : Signal}

theorem drags_of_stepPressed (hstage : recognizer.stage = .pressed press)
    (hlater : (recognizer.stepPressed precision press signal).1.stage = .dragging axis later) :
    (Stage.pressed press).Drags precision axis signal
      (recognizer.stepPressed precision press signal).2 later := by
  unfold stepPressed at hlater ⊢
  cases signal with
  | tick now =>
    dsimp only at hlater
    split at hlater
    . contradiction
    . rw [hstage] at hlater
      contradiction
  | touch phase id point now =>
    dsimp only at hlater ⊢
    split at hlater
    . rw [hstage] at hlater
      contradiction
    . next hid =>
      rw [if_neg hid]
      rw [Decidable.not_not] at hid
      subst hid
      cases phase with
      | down => contradiction
      | move =>
        dsimp only at hlater ⊢
        split at hlater
        . contradiction
        . next hheld =>
          rw [if_neg hheld]
          split at hlater
          . obtain ⟨rfl, rfl⟩ := Stage.dragging.inj hlater
            exact .first
          . contradiction
      | up =>
        dsimp only at hlater
        split at hlater
        . contradiction
        . split at hlater <;> contradiction

theorem drags_of_stepDragging {before : Axis} (hstage : recognizer.stage = .dragging before press)
    (hlater : (recognizer.stepDragging precision before press signal).1.stage =
      .dragging axis later) :
    (Stage.dragging before press).Drags precision axis signal
      (recognizer.stepDragging precision before press signal).2 later := by
  unfold stepDragging at hlater ⊢
  have hrest (h : recognizer.stage = .dragging axis later)
      (hmove : ∀ point now, signal ≠ .touch .move press.id point now) :
      (Stage.dragging before press).Drags precision axis signal [] later := by
    obtain ⟨rfl, rfl⟩ := Stage.dragging.inj (hstage.symm.trans h)
    exact .rest hmove
  cases signal with
  | tick now =>
    exact hrest hlater nofun
  | touch phase id point now =>
    dsimp only at hlater ⊢
    split at hlater
    . next hid =>
      rw [if_pos hid]
      refine hrest hlater ?_
      rintro place when hsignal
      exact hid (Signal.touch.inj hsignal).2.1
    . next hid =>
      rw [if_neg hid]
      rw [Decidable.not_not] at hid
      subst hid
      cases phase with
      | down => exact hrest hlater nofun
      | move =>
        obtain ⟨rfl, rfl⟩ := Stage.dragging.inj hlater
        simp only [Point.moved_iff, ite_not]
        exact .next
      | up => contradiction

theorem drags_of_step
    (hlater : (recognizer.step precision signal).1.stage = .dragging axis later) :
    recognizer.stage.Drags precision axis signal (recognizer.step precision signal).2 later := by
  cases hstage : recognizer.stage with
  | idle =>
    unfold step at hlater
    rw [hstage] at hlater
    dsimp only at hlater
    split at hlater
    . contradiction
    . rw [hstage] at hlater
      contradiction
  | pressed press =>
    unfold step at hlater ⊢
    rw [hstage] at hlater ⊢
    exact drags_of_stepPressed hstage hlater
  | holding press =>
    have hbegun : recognizer.stage.begun? signal = none := by
      rw [hstage]
      exact Stage.begun?_holding press signal
    have hnext := continues_step precision hbegun
    rw [hstage, hlater] at hnext
    generalize (recognizer.step precision signal).2 = gestures at hnext
    cases hnext
  | dragging before press =>
    unfold step at hlater ⊢
    rw [hstage] at hlater ⊢
    exact drags_of_stepDragging hstage hlater

theorem phase_step_dragging (hstage : recognizer.stage = .dragging axis press)
    (hup : ∀ point now, signal ≠ .touch .up press.id point now) :
    (recognizer.step precision signal).1.stage.phase = .drag axis := by
  have hrest : recognizer.stage.phase = .drag axis := by
    rw [hstage]
    rfl
  unfold step stepDragging
  rw [hstage]
  cases signal with
  | tick => exact hrest
  | touch phase id point now =>
    dsimp only
    split
    . exact hrest
    . next hid =>
      rw [Decidable.not_not] at hid
      subst hid
      cases phase with
      | down => exact hrest
      | move => rfl
      | up => exact absurd rfl (hup point now)

theorem step_dragging_up (hstage : recognizer.stage = .dragging axis press) (point : Point)
    (now : UInt64) :
    (recognizer.step precision (.touch .up press.id point now)).2 =
      [(press.observe precision point).gesture
        (.dragEnd axis (precision.swipe? axis (point.x - press.start.x))) now
        (point.x - press.start.x) (point.y - press.start.y)] := by
  unfold step stepDragging
  rw [hstage]
  simp only [ne_eq, not_true_eq_false, if_false]
  rfl

end Recognizer

namespace Classifier

def Call.move? (reference : Reference) (id : UInt32) : Call → Option Point
  | handle sample =>
    if sample.phase = .move ∧ sample.id = id then some (reference.point sample) else none
  | tick _ => none

def lastMove? (reference : Reference) (id : UInt32) (calls : List Call) : Option Point :=
  (calls.filterMap (Call.move? reference id)).getLast?

/--
The press of the contact that is followed after some calls: the call that has begun it, and the calls
since, none of which begins another one or lifts the contact.
-/
structure IsPresent (reference : Reference) (calls before : List Call) (down : Sample)
    (since : List Call) : Prop where
  eq_append : calls = before ++ .handle down :: since
  isDown : down.phase = .down
  begun : ((new reference).performAll before).1.begun? (.handle down) =
    some (down.id, reference.positive.point down)
  never_begun : Never (fun earlier call =>
    (((new reference).performAll (before ++ .handle down :: earlier)).1.begun? call).isSome) since
  never_up : ∀ sample, .handle sample ∈ since → sample.id = down.id → sample.phase ≠ .up

def reportedSince (reference : Reference) (before : List Call) (down : Sample)
    (since : List Call) : List Gesture :=
  (((new reference).performAll (before ++ [.handle down])).1.performAll since).2

/--
What is known of a drag: its steps lead to where the contact has moved last, and each of them to
where it is reported.
-/
structure Trails (reference : Reference) (interaction : Interaction) (calls : List Call)
    (press : Press) : Prop where
  lastMove : lastMove? reference interaction.id calls = some press.last
  walk : interaction.start.walk interaction.gestures = press.last
  isTrail : IsTrail interaction.start interaction.gestures

variable {reference : Reference} {interaction : Interaction} {calls : List Call} {call : Call}

theorem lastMove?_concat (reference : Reference) (id : UInt32) (calls : List Call) (call : Call) :
    lastMove? reference id (calls ++ [call]) =
      (call.move? reference id).or (lastMove? reference id calls) := by
  unfold lastMove?
  rw [List.filterMap_append, List.getLast?_append]
  cases hmove : call.move? reference id <;> simp [hmove]

theorem move?_eq_some_iff {classifier : Classifier} {id : UInt32} {point : Point} :
    call.move? classifier.reference id = some point ↔
      ∃ now, classifier.heard call = .touch .move id point now := by
  unfold Call.move? heard signal
  cases call with
  | tick => exact iff_of_false nofun nofun
  | handle sample =>
    dsimp only
    rw [Option.ite_none_right_eq_some, Option.some.injEq]
    constructor
    . rintro ⟨⟨hphase, hid⟩, hpoint⟩
      rw [hphase, hid, hpoint]
      exact ⟨_, rfl⟩
    . rintro ⟨now, hsignal⟩
      obtain ⟨hphase, hid, hpoint, -⟩ := Signal.touch.inj hsignal
      exact ⟨⟨hphase, hid⟩, hpoint⟩

theorem trails_concat {press : Press} {point : Point} {step : Gesture}
    (hmove : call.move? reference interaction.id = some point)
    (htrail : IsTrail interaction.start interaction.gestures)
    (hx : step.dx = point.x - (interaction.start.walk interaction.gestures).x)
    (hy : step.dy = point.y - (interaction.start.walk interaction.gestures).y)
    (hstep : step.point = point) (hlast : press.last = point) :
    Trails reference (interaction.extend [step]) (calls ++ [call]) press := by
  have hwalk : interaction.start.walk (interaction.gestures ++ [step]) = point := by
    rw [walk_concat, hx, hy, Int.add_comm, Int.sub_add_cancel, Int.add_comm, Int.sub_add_cancel]
  constructor
  . exact (lastMove?_concat ..).trans (hmove.symm ▸ hlast ▸ rfl)
  . exact hwalk.trans hlast.symm
  . exact isTrail_concat htrail (hstep.trans hwalk.symm)

theorem trails_of_drags {classifier : Classifier} (hreference : classifier.reference = reference)
    {stage : Stage} {axis : Axis} {gestures : List Gesture} {later : Press}
    (hfits : stage.Fits interaction)
    (htrails : ∀ axis press, stage = .dragging axis press →
      Trails reference interaction calls press)
    (h : stage.Drags .word axis (classifier.heard call) gestures later) :
    Trails reference (interaction.extend gestures) (calls ++ [call]) later := by
  subst hreference
  generalize hsignal : classifier.heard call = signal at h
  cases h with
  | rest hother =>
    obtain ⟨hlast, hwalk, htrail⟩ := htrails _ _ rfl
    obtain ⟨hid, -⟩ := hfits.press later rfl
    have hmove : call.move? classifier.reference interaction.id = none := by
      rw [Option.eq_none_iff_forall_ne_some]
      intro point hpoint
      obtain ⟨now, hheard⟩ := move?_eq_some_iff.1 hpoint
      rw [← hid] at hheard
      exact hother point now (hsignal.symm.trans hheard)
    unfold Interaction.extend
    rw [List.append_nil]
    refine ⟨?_, hwalk, htrail⟩
    rw [lastMove?_concat, hmove]
    exact hlast
  | @first press point now =>
    obtain ⟨hid, hstart⟩ := hfits.press press rfl
    rw [hid] at hsignal
    have hnone : interaction.gestures = [] := by
      have hword := hfits.speaks
      generalize hwords : interaction.word = word at hword
      cases hword
      exact List.map_eq_nil_iff.1 hwords
    apply trails_concat (move?_eq_some_iff.2 ⟨now, hsignal⟩)
    . rw [hnone]
      exact isTrail_nil _
    . rw [hnone, walk_nil, ← hstart]
      rfl
    . rw [hnone, walk_nil, ← hstart]
      rfl
    . rfl
    . rfl
  | @next press point now =>
    obtain ⟨hid, hstart⟩ := hfits.press press rfl
    rw [hid] at hsignal
    obtain ⟨hlast, hwalk, htrail⟩ := htrails _ _ rfl
    have hmove := move?_eq_some_iff.2 ⟨now, hsignal⟩
    split
    . next hsame =>
      unfold Interaction.extend
      rw [List.append_nil]
      refine ⟨?_, ?_, htrail⟩
      . rw [lastMove?_concat, hmove]
        rfl
      . rw [hwalk, ← hsame]
        rfl
    . apply trails_concat hmove htrail
      . rw [hwalk]
        rfl
      . rw [hwalk]
        rfl
      . rfl
      . rfl

theorem begun?_eq_some {classifier : Classifier} {begun : UInt32 × Point}
    (h : classifier.begun? call = some begun) :
    ∃ down : Sample, call = .handle down ∧ down.phase = .down ∧
      begun = (down.id, classifier.reference.point down) := by
  cases call with
  | tick => contradiction
  | handle down =>
    obtain ⟨phase, id, x, y, pressure, time, source⟩ := down
    cases phase with
    | move => contradiction
    | up => contradiction
    | down =>
      unfold begun? Stage.begun? heard signal at h
      dsimp only at h
      rw [Option.ite_none_right_eq_some] at h
      exact ⟨_, rfl, rfl, (Option.some.inj h.2).symm⟩

theorem reference_performAll (classifier : Classifier) (calls : List Call) :
    (classifier.performAll calls).1.reference = classifier.reference := by
  induction calls generalizing classifier with
  | nil => rfl
  | cons call calls ih =>
    unfold performAll
    dsimp only
    rw [ih, perform_eq]
    rfl

theorem performAll_concat (classifier : Classifier) (calls : List Call) (call : Call) :
    classifier.performAll (calls ++ [call]) =
      (((classifier.performAll calls).1.perform call).1,
        (classifier.performAll calls).2 ++ ((classifier.performAll calls).1.perform call).2) := by
  have hlast (other : Classifier) : other.performAll [call] = other.perform call := by
    change ((other.perform call).1, (other.perform call).2 ++ []) = _
    rw [List.append_nil]
  rw [performAll_append, hlast]

structure Knows (reference : Reference) (calls before : List Call) (down : Sample)
    (since : List Call) : Prop where
  isPresent : IsPresent reference calls before down since
  fits : ((new reference).performAll calls).1.recognizer.stage.Fits
    ⟨down.id, reference.positive.point down, reportedSince reference before down since⟩
  trails : ∀ axis press, ((new reference).performAll calls).1.recognizer.stage =
      .dragging axis press →
    Trails reference.positive
      ⟨down.id, reference.positive.point down, reportedSince reference before down since⟩ since
      press

theorem knows_begun {begun : UInt32 × Point}
    (hbegun : ((new reference).performAll calls).1.begun? call = some begun) :
    ∃ down, Knows reference (calls ++ [call]) calls down [] := by
  obtain ⟨down, rfl, hdown, rfl⟩ := begun?_eq_some hbegun
  rw [reference_performAll] at hbegun
  obtain ⟨now, hstep⟩ := Recognizer.step_of_begun .word hbegun
  have hstage : ((new reference).performAll (calls ++ [.handle down])).1.recognizer.stage =
      .pressed (Press.fresh down.id (reference.positive.point down) now) := by
    rw [performAll_concat, stage_perform, hstep]
    rfl
  refine ⟨down, ⟨rfl, hdown, hbegun, ?_, nofun⟩, ?_, ?_⟩
  . intro before call after happend
    exact absurd happend (List.append_ne_nil_of_right_ne_nil _ (List.cons_ne_nil _ _)).symm
  . rw [hstage]
    exact Stage.fits_fresh ..
  . rw [hstage]
    exact nofun

theorem knows_continues {before since : List Call} {down : Sample}
    (h : Knows reference calls before down since)
    (hbegun : ((new reference).performAll calls).1.begun? call = none)
    (hfollows : ((new reference).performAll (calls ++ [call])).1.primary? ≠ none) :
    Knows reference (calls ++ [call]) before down (since ++ [call]) := by
  obtain ⟨⟨happend, hdown, hbegan, hnever, hup⟩, hfits, htrails⟩ := h
  have hsince : ((new reference).performAll calls).1 =
      (((new reference).performAll (before ++ [.handle down])).1.performAll since).1 := by
    rw [happend, List.append_cons, performAll_append]
  have hreported : reportedSince reference before down (since ++ [call]) =
      reportedSince reference before down since ++
        (((new reference).performAll calls).1.perform call).2 := by
    unfold reportedSince
    rw [performAll_concat, hsince]
  have hnone : ¬(((new reference).performAll (before ++ .handle down :: since)).1.begun?
      call).isSome := by
    rw [← happend, hbegun]
    exact Bool.false_ne_true
  have hreference := reference_performAll (new reference) calls
  have hperform : ((new reference).performAll (calls ++ [call])).1 =
      (((new reference).performAll calls).1.perform call).1 := by
    rw [performAll_concat]
  have hcontinues := Recognizer.continues_step .word hbegun
  rw [← gestures_perform, ← stage_perform] at hcontinues
  have hnext := Stage.fits_continues hfits hcontinues
  rw [hperform] at hfollows
  refine ⟨⟨?_, hdown, hbegan, ?_, ?_⟩, ?_, ?_⟩
  . rw [happend, List.append_assoc, List.cons_append]
  . rw [never_concat_iff]
    exact ⟨hnever, hnone⟩
  . intro sample hmem hid
    rcases List.mem_append.1 hmem with hbefore | hlast
    . exact hup sample hbefore hid
    . obtain rfl := List.mem_singleton.1 hlast
      rcases primary?_perform (Stage.primary?_of_fits hnext hfollows) with
        ⟨other, hcall, hphase, -⟩ | ⟨-, hphase⟩
      . obtain rfl := Call.handle.inj hcall
        rw [hphase]
        exact Phase.noConfusion
      . exact hphase sample rfl hid
  . rw [hperform, hreported]
    exact hnext
  . intro axis later hlater
    rw [hreported]
    rw [hperform, stage_perform] at hlater
    have hdrags := Recognizer.drags_of_step hlater
    rw [← gestures_perform] at hdrags
    exact trails_of_drags hreference hfits htrails hdrags

theorem exists_knows (reference : Reference) (calls : List Call)
    (hfollows : ((new reference).performAll calls).1.primary? ≠ none) :
    ∃ before down since, Knows reference calls before down since := by
  induction calls using List.reverseRecOn with
  | nil => exact absurd rfl hfollows
  | append_singleton calls call ih =>
    cases hbegun : ((new reference).performAll calls).1.begun? call with
    | some begun =>
      obtain ⟨down, hknows⟩ := knows_begun hbegun
      exact ⟨calls, down, [], hknows⟩
    | none =>
      have hbefore : ((new reference).performAll calls).1.primary? ≠ none := by
        obtain ⟨id, hid⟩ := Option.ne_none_iff_exists'.1 hfollows
        rw [performAll_concat] at hid
        unfold primary? at hid ⊢
        rw [stage_perform] at hid
        rw [Stage.primary?_of_continues (Recognizer.continues_step .word hbegun) hid]
        exact Option.some_ne_none id
      obtain ⟨before, down, since, hknows⟩ := ih hbefore
      exact ⟨before, down, since ++ [call], knows_continues hknows hbegun hfollows⟩

theorem steps_of_fits {axis : Axis} {press : Press}
    (h : (Stage.dragging axis press).Fits interaction) :
    interaction.gestures ≠ [] ∧ ∀ step ∈ interaction.gestures,
      step.kind = .drag axis ∧ step.id = interaction.id ∧ step.start = interaction.start := by
  have hspeaks := h.speaks
  generalize hword : interaction.word = word at hspeaks
  cases hspeaks with
  | dragging _ _ count =>
    constructor
    . intro hnil
      unfold Interaction.word at hword
      rw [hnil] at hword
      contradiction
    . intro step hmem
      refine ⟨?_, h.isCarried step hmem⟩
      apply List.eq_of_mem_replicate
      rw [← hword]
      exact List.mem_map_of_mem hmem

theorem handle_up_of_dragging {classifier : Classifier} {axis : Axis} {press : Press}
    (hstage : classifier.recognizer.stage = .dragging axis press) {up : Sample}
    (hup : up.phase = .up) (hid : up.id = press.id) :
    ∃ last swipe, (classifier.handle up).2 = [last] ∧
      (last.kind = .dragEnd axis swipe ∧ last.id = press.id ∧ last.start = press.start) ∧
      last.point = classifier.reference.point up ∧
      last.dx = last.point.x - press.start.x ∧ last.dy = last.point.y - press.start.y := by
  have hheard : classifier.heard (.handle up) =
      .touch .up press.id (classifier.reference.point up) up.time := by
    unfold heard signal
    dsimp only
    rw [hup, hid]
  have hends := classifier.gestures_perform (.handle up)
  rw [hheard, Recognizer.step_dragging_up hstage] at hends
  exact ⟨_, _, hends, ⟨rfl, rfl, rfl⟩, rfl, rfl, rfl⟩

/--
A drag that goes on after some calls began with a down among them. Since then only steps of the drag
are reported, one at least. They lead from the point of the down to the point to which the contact
has moved last, and each of them to the point where it is reported. Only the contact can end the
drag, when it lifts. The end tells the whole way, which is the sum of the steps and the way from the
last move.
-/
theorem walk_performAll (reference : Reference) (calls : List Call) {axis : Axis}
    (hphase : ((new reference).performAll calls).1.phase = .drag axis) :
    ∃ before down since, IsPresent reference calls before down since ∧
      let classifier := ((new reference).performAll calls).1
      let start := reference.positive.point down
      let steps := reportedSince reference before down since
      (classifier.primary? = some down.id ∧ steps ≠ [] ∧
        ∀ step ∈ steps, step.kind = .drag axis ∧ step.id = down.id ∧ step.start = start) ∧
      lastMove? reference.positive down.id since = some (start.walk steps) ∧
      IsTrail start steps ∧
      (∀ call, (∀ up, call = .handle up → up.id = down.id → up.phase ≠ .up) →
        (classifier.perform call).1.phase = .drag axis) ∧
      ∀ up : Sample, up.phase = .up → up.id = down.id →
        ∃ last swipe, (classifier.handle up).2 = [last] ∧
          (last.kind = .dragEnd axis swipe ∧ last.id = down.id ∧ last.start = start) ∧
          last.point = reference.positive.point up ∧
          (last.dx = last.point.x - start.x ∧ last.dy = last.point.y - start.y) ∧
          ∀ moved, lastMove? reference.positive down.id since = some moved →
            last.dx = (steps.map Gesture.dx).sum + (last.point.x - moved.x) ∧
            last.dy = (steps.map Gesture.dy).sum + (last.point.y - moved.y) := by
  obtain ⟨press, hstage⟩ : ∃ press, ((new reference).performAll calls).1.recognizer.stage =
      .dragging axis press := Stage.dragging_of_phase hphase
  have hfollows : ((new reference).performAll calls).1.primary? ≠ none := by
    unfold primary?
    rw [hstage]
    exact Option.some_ne_none _
  obtain ⟨before, down, since, hpresent, hfits, htrails⟩ := exists_knows reference calls hfollows
  refine ⟨before, down, since, hpresent, ?_⟩
  intro classifier start steps
  have hreference : classifier.reference = reference.positive := reference_performAll ..
  change classifier.recognizer.stage = _ at hstage
  change classifier.recognizer.stage.Fits ⟨down.id, start, steps⟩ at hfits
  obtain ⟨hlast, hwalk, htrail⟩ := htrails axis press hstage
  change start.walk steps = press.last at hwalk
  rw [← hwalk] at hlast
  rw [hstage] at hfits
  obtain ⟨hnil, hsteps⟩ := steps_of_fits hfits
  have hid : press.id = down.id := (hfits.press press rfl).1
  have hstart : press.start = start := (hfits.press press rfl).2
  refine ⟨⟨?_, hnil, hsteps⟩, hlast, htrail, ?_, ?_⟩
  . unfold primary?
    rw [hstage]
    exact congrArg some hid
  . intro call hup
    unfold phase
    rw [stage_perform]
    apply Recognizer.phase_step_dragging hstage
    intro point now hsignal
    cases call with
    | tick => contradiction
    | handle up =>
      obtain ⟨hphase, hsame, -, -⟩ := Signal.touch.inj hsignal
      exact hup up rfl (hsame.trans hid) hphase
  . intro up hphase hup
    obtain ⟨last, swipe, hends, hlastPress, hpoint, hx, hy⟩ :=
      handle_up_of_dragging hstage hphase (hup.trans hid.symm)
    rw [hid, hstart] at hlastPress
    rw [hstart] at hx hy
    rw [hreference] at hpoint
    refine ⟨last, swipe, hends, hlastPress, hpoint, ⟨hx, hy⟩, ?_⟩
    intro moved hmoved
    obtain rfl := Option.some.inj (hlast.symm.trans hmoved)
    unfold Point.walk
    dsimp only
    constructor <;> omega

/--
A contact moves a little, then far, rests, and moves back, while another one goes down.
-/
theorem walk_performAll_back :
    let seen (id : UInt32) (phase : Phase) (x : Float32) (now : UInt64) : Call :=
      .handle ⟨phase, id, x, 0.5, 1, now, .touch⟩
    let calls : List Call := [seen 1 .down 0.25 0, seen 1 .move 0.2578125 10, seen 2 .down 0 20,
      seen 1 .move 0.5 30, .tick 900, seen 1 .move 0.5 910, seen 1 .move 0.375 920]
    ((new .standard).performAll calls).1.phase = .drag .horizontal ∧
      ((new .standard).performAll calls).2.map Gesture.dx = [200, -100] ∧
      ∃ before down since, IsPresent .standard calls before down since ∧
        lastMove? .standard down.id since = some
          ((Reference.standard.point down).walk (reportedSince .standard before down since)) := by
  intro seen calls
  have hphase : ((new .standard).performAll calls).1.phase = .drag .horizontal := by
    decide +kernel
  obtain ⟨before, down, since, hpresent, -, hlast, -⟩ := walk_performAll .standard calls hphase
  exact ⟨hphase, by decide +kernel, before, down, since, hpresent, hlast⟩

end Classifier

end TouchPanel.Gesture
