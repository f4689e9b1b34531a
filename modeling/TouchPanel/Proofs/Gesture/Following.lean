import TouchPanel.Proofs.Gesture.Report
import TouchPanel.Proofs.Gesture.Secondary

/-!
This module contains which press the machine follows after some signals: one that a contact has
begun by going down, and that has observed all points to which the contact has moved since
(`Recognizer.observes_after`). So the machine only ever compares points that it has heard of
(`Recognizer.isWithin_step`).
-/

namespace TouchPanel.Gesture

def Signal.move? (id : UInt32) : Signal → Option Point
  | touch .move other point _ => if other = id then some point else none
  | _ => none

def Press.follow (precision : Precision) (press : Press) (signal : Signal) : Press :=
  match signal.move? press.id with
  | some point => press.observe precision point
  | none => press

/--
How a signal comes to leave a press: it begins the press, or the press has gone on from before.
-/
inductive Stage.Follows (precision : Precision) : Stage → Signal → Press → Prop where
  | begins {stage : Stage} {id : UInt32} {point : Point} {now : UInt64}
    (hbegun : stage.begun? (.touch .down id point now) = some (id, point)) :
    Follows precision stage (.touch .down id point now) (Press.fresh id point now)
  | goesOn {stage : Stage} {press : Press} {signal : Signal} (hpress : stage.press? = some press)
    (hbegun : stage.begun? signal = none) :
    Follows precision stage signal (press.follow precision signal)

namespace Stage

variable {stage : Stage} {press : Press} {phase : Phase} {id : UInt32}

theorem eq_idle_of_press? (h : stage.press? = none) : stage = .idle := by
  cases stage with
  | idle => rfl
  | pressed | holding | dragging => contradiction

theorem begun?_of_id_ne (hpress : stage.press? = some press) (hid : id ≠ press.id) (point : Point)
    (now : UInt64) : stage.begun? (.touch phase id point now) = none := by
  cases stage with
  | idle => contradiction
  | pressed =>
    obtain rfl := Option.some.inj hpress
    rw [begun?_pressed]
    exact if_neg fun h => hid h.2.symm
  | holding press => exact begun?_holding press _
  | dragging axis press => exact begun?_dragging axis press _

end Stage

namespace Press

variable (precision : Precision) (press : Press)

def observeAll (points : List Point) : Press :=
  points.foldl (fun press point => press.observe precision point) press

theorem observeAll_append (points more : List Point) :
    press.observeAll precision (points ++ more) =
      (press.observeAll precision points).observeAll precision more := List.foldl_append

theorem isSame_follow (signal : Signal) :
    press.IsSame (press.follow precision signal) ∧
      (press.follow precision signal).since = press.since := by
  unfold follow
  split
  . exact ⟨press.isSame_observe .., rfl⟩
  . exact ⟨press.isSame_refl, rfl⟩

theorem follow_eq_observeAll (signal : Signal) :
    press.follow precision signal = press.observeAll precision (signal.move? press.id).toList := by
  unfold follow
  cases signal.move? press.id <;> rfl

theorem follow_move (point : Point) (now : UInt64) :
    press.follow precision (.touch .move press.id point now) = press.observe precision point := by
  have hmove : (Signal.touch .move press.id point now).move? press.id = some point := if_pos rfl
  unfold follow
  rw [hmove]

variable {press}

theorem follow_of_move?_eq_none {signal : Signal} (h : signal.move? press.id = none) :
    press.follow precision signal = press := by
  unfold follow
  rw [h]

end Press

namespace Recognizer

variable (precision : Precision) {recognizer : Recognizer} {press later : Press} {signal : Signal}
  {id : UInt32} {point : Point} {now : UInt64}

theorem press?_step_tick (recognizer : Recognizer) (now : UInt64) :
    (recognizer.step precision (.tick now)).1.stage.press? = recognizer.stage.press? := by
  unfold step
  cases hstage : recognizer.stage with
  | pressed press =>
    dsimp only
    unfold stepPressed
    dsimp only
    split
    . rfl
    . rw [hstage]
  | idle | holding | dragging =>
    dsimp only [stepHolding, stepDragging]
    rw [hstage]

theorem press?_step_move (hpress : recognizer.stage.press? = some press) (point : Point)
    (now : UInt64) :
    (recognizer.step precision (.touch .move press.id point now)).1.stage.press? =
      some (press.observe precision point) := by
  unfold step
  cases hstage : recognizer.stage <;> rw [hstage] at hpress
  case idle => contradiction
  all_goals obtain rfl := Option.some.inj hpress
  case pressed press =>
    dsimp only
    unfold stepPressed
    simp only [ne_eq, not_true_eq_false, if_false]
    split
    . rfl
    . split <;> rfl
  case holding press =>
    dsimp only
    unfold stepHolding
    simp only [ne_eq, not_true_eq_false, if_false]
    rfl
  case dragging axis press =>
    dsimp only
    unfold stepDragging
    simp only [ne_eq, not_true_eq_false, if_false]
    rfl

theorem step_down (hpress : recognizer.stage.press? = some press) (point : Point) (now : UInt64) :
    recognizer.stage.begun? (.touch .down press.id point now) = some (press.id, point) ∧
        recognizer.step precision (.touch .down press.id point now) =
          (enter (.pressed (Press.fresh press.id point now)), []) ∨
      recognizer.stage.begun? (.touch .down press.id point now) = none ∧
        recognizer.step precision (.touch .down press.id point now) = (recognizer, []) := by
  unfold step
  cases hstage : recognizer.stage <;> rw [hstage] at hpress
  case idle => contradiction
  all_goals obtain rfl := Option.some.inj hpress
  case pressed press =>
    rw [Stage.begun?_pressed]
    dsimp only
    unfold stepPressed
    simp
  case holding press =>
    rw [Stage.begun?_holding]
    dsimp only
    unfold stepHolding
    simp
  case dragging axis press =>
    rw [Stage.begun?_dragging]
    dsimp only
    unfold stepDragging
    simp

theorem follows_rest (hpress : recognizer.stage.press? = some press)
    (hbegun : recognizer.stage.begun? signal = none) (hmove : signal.move? press.id = none) :
    recognizer.stage.Follows precision signal press := by
  have hfollows : recognizer.stage.Follows precision signal (press.follow precision signal) :=
    .goesOn hpress hbegun
  rw [Press.follow_of_move?_eq_none precision hmove] at hfollows
  exact hfollows

theorem follows_step_touch {phase : Phase}
    (hlater : (recognizer.step precision (.touch phase id point now)).1.stage.press? = some later)
    (hpress : recognizer.stage.press? = some press) :
    recognizer.stage.Follows precision (.touch phase id point now) later := by
  by_cases hid : id = press.id
  . subst hid
    cases phase with
    | down =>
      obtain ⟨hbegun, hstep⟩ | ⟨hbegun, hstep⟩ := step_down precision hpress point now
      . rw [hstep] at hlater
        obtain rfl := Option.some.inj hlater
        exact .begins hbegun
      . rw [hstep, hpress] at hlater
        obtain rfl := Option.some.inj hlater
        exact follows_rest precision hpress hbegun rfl
    | move =>
      rw [press?_step_move precision hpress] at hlater
      obtain rfl := Option.some.inj hlater
      rw [← press.follow_move precision point now]
      exact .goesOn hpress rfl
    | up =>
      have hprimary : recognizer.stage.primary? = some press.id := by
        unfold Stage.primary?
        rw [hpress]
        rfl
      rw [step_up precision hprimary] at hlater
      contradiction
  . rw [step_of_id_ne precision hpress hid, hpress] at hlater
    obtain rfl := Option.some.inj hlater
    have hmove : (Signal.touch phase id point now).move? press.id = none := by
      cases phase with
      | move => exact if_neg hid
      | down | up => rfl
    exact follows_rest precision hpress (Stage.begun?_of_id_ne hpress hid point now) hmove

theorem follows_step (hlater : (recognizer.step precision signal).1.stage.press? = some later) :
    recognizer.stage.Follows precision signal later := by
  cases signal with
  | tick now =>
    rw [press?_step_tick] at hlater
    exact follows_rest precision hlater rfl rfl
  | touch phase id point now =>
    cases hpress : recognizer.stage.press? with
    | some press => exact follows_step_touch precision hlater hpress
    | none =>
      have hidle := Stage.eq_idle_of_press? hpress
      unfold step at hlater
      rw [hidle] at hlater
      cases phase with
      | down =>
        obtain rfl := Option.some.inj hlater
        apply Stage.Follows.begins
        rw [hidle]
        rfl
      | move | up => exact absurd (hpress.symm.trans hlater) nofun

def run (recognizer : Recognizer) :
    List Signal → List (Recognizer × List Gesture)
  | [] => []
  | signal :: signals =>
    let result := recognizer.step precision signal
    result :: result.1.run signals

def after (recognizer : Recognizer) (signals : List Signal) : Recognizer :=
  signals.foldl (fun recognizer signal => (recognizer.step precision signal).1) recognizer

theorem after_concat (recognizer : Recognizer) (signals : List Signal) (signal : Signal) :
    recognizer.after precision (signals ++ [signal]) =
      ((recognizer.after precision signals).step precision signal).1 := by
  unfold after
  rw [List.foldl_append]
  rfl

/--
How the press that is followed after some signals has come about: the signal that has begun it, and
the signals since, none of which has begun another one. The press has been observed wherever its
contact has moved since.
-/
structure Observes (signals before : List Signal) (press : Press) (since : List Signal) : Prop where
  eq_append : signals = before ++ .touch .down press.id press.start press.since :: since
  begun : (idle.after precision before).stage.begun?
    (.touch .down press.id press.start press.since) = some (press.id, press.start)
  never_begun : Never (fun earlier signal => ((idle.after precision
    (before ++ .touch .down press.id press.start press.since :: earlier)).stage.begun?
      signal).isSome) since
  eq_observeAll : press = (Press.fresh press.id press.start press.since).observeAll precision
    (since.filterMap (Signal.move? press.id))

theorem observes_begun {signals : List Signal}
    (hbegun : (idle.after precision signals).stage.begun? (.touch .down id point now) =
      some (id, point)) :
    Observes precision (signals ++ [.touch .down id point now]) signals (Press.fresh id point now)
      [] := by
  refine ⟨rfl, hbegun, ?_, rfl⟩
  intro earlier signal later happend
  exact absurd happend (by simp)

theorem observes_follow {signals before since : List Signal}
    (h : Observes precision signals before press since)
    (hbegun : (idle.after precision signals).stage.begun? signal = none) :
    Observes precision (signals ++ [signal]) before (press.follow precision signal)
      (since ++ [signal]) := by
  obtain ⟨⟨hid, hstart⟩, hsince⟩ := press.isSame_follow precision signal
  have hseen : (since ++ [signal]).filterMap (Signal.move? press.id) =
      since.filterMap (Signal.move? press.id) ++ (signal.move? press.id).toList := by
    rw [List.filterMap_append]
    cases hmove : signal.move? press.id <;> simp [hmove]
  constructor
  . rw [hid, hstart, hsince, h.eq_append, List.append_assoc, List.cons_append]
  . rw [hid, hstart, hsince]
    exact h.begun
  . rw [hid, hstart, hsince, never_concat_iff, ← h.eq_append, hbegun]
    exact ⟨h.never_begun, nofun⟩
  . rw [hid, hstart, hsince, hseen, Press.follow_eq_observeAll, Press.observeAll_append,
      ← h.eq_observeAll]

theorem observes_after {signals : List Signal}
    (hpress : (idle.after precision signals).stage.press? = some press) :
    ∃ before since, Observes precision signals before press since := by
  induction signals using List.reverseRecOn generalizing press with
  | nil => contradiction
  | append_singleton signals signal ih =>
    rw [after_concat] at hpress
    have hfollows := follows_step precision hpress
    generalize hstage : (idle.after precision signals).stage = stage at hfollows
    cases hfollows with
    | begins hbegun =>
      rw [← hstage] at hbegun
      exact ⟨signals, [], observes_begun precision hbegun⟩
    | goesOn hbefore hbegun =>
      rw [← hstage] at hbefore hbegun
      obtain ⟨before, since, hobserves⟩ := ih hbefore
      exact ⟨before, since ++ [signal], observes_follow precision hobserves hbegun⟩

end Recognizer

structure Point.IsWithin (bound : Int) (point : Point) : Prop where
  x_nonneg : 0 ≤ point.x
  x_le : point.x ≤ bound
  y_nonneg : 0 ≤ point.y
  y_le : point.y ≤ bound

theorem Point.isWithin_iff (bound : Int) (point : Point) :
    point.IsWithin bound ↔ 0 ≤ point.x ∧ point.x ≤ bound ∧ 0 ≤ point.y ∧ point.y ≤ bound :=
  ⟨fun h => ⟨h.x_nonneg, h.x_le, h.y_nonneg, h.y_le⟩, fun h => ⟨h.1, h.2.1, h.2.2.1, h.2.2.2⟩⟩

instance (bound : Int) (point : Point) : Decidable (point.IsWithin bound) :=
  decidable_of_iff _ (point.isWithin_iff bound).symm

def Signal.IsWithin (bound : Int) : Signal → Prop
  | touch _ _ point _ => point.IsWithin bound
  | tick _ => True

instance (bound : Int) (signal : Signal) : Decidable (signal.IsWithin bound) :=
  match signal with
  | .touch _ _ point _ => inferInstanceAs (Decidable (point.IsWithin bound))
  | .tick _ => inferInstanceAs (Decidable True)

def Stage.IsWithin (bound : Int) (stage : Stage) : Prop :=
  ∀ press, stage.press? = some press → press.start.IsWithin bound ∧ press.last.IsWithin bound

theorem Stage.isWithin_idle (bound : Int) : idle.IsWithin bound := nofun

theorem Signal.isWithin_of_move? {bound : Int} {id : UInt32} {signal : Signal} {point : Point}
    (h : signal.IsWithin bound) (hmove : signal.move? id = some point) : point.IsWithin bound := by
  unfold move? at hmove
  split at hmove
  . rw [Option.ite_none_right_eq_some] at hmove
    obtain rfl := Option.some.inj hmove.2
    exact h
  . contradiction

theorem Recognizer.isWithin_step (precision : Precision) {bound : Int} {recognizer : Recognizer}
    {signal : Signal} (h : recognizer.stage.IsWithin bound) (hsignal : signal.IsWithin bound) :
    (recognizer.step precision signal).1.stage.IsWithin bound := by
  intro later hlater
  have hfollows := follows_step precision hlater
  generalize hstage : recognizer.stage = stage at hfollows
  cases hfollows with
  | begins hbegun => exact ⟨hsignal, hsignal⟩
  | @goesOn press _ hpress hbegun =>
    rw [← hstage] at hpress
    obtain ⟨hstart, hlast⟩ := h press hpress
    unfold Press.follow
    split
    . next point hmove => exact ⟨hstart, Signal.isWithin_of_move? hsignal hmove⟩
    . exact ⟨hstart, hlast⟩

end TouchPanel.Gesture
