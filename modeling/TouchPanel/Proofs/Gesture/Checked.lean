import TouchPanel.Proofs.Gesture.Following

/-!
This module contains the machine with differences of coordinates that are checked
(`Recognizer.step?`): unlike squares, sums and products they are not kept within words, so a
difference that is no word is none at all. That never happens as long as no coordinate is negative
(`Recognizer.run?_eq_some`).
-/

namespace TouchPanel.Gesture

def minus? (a b : Int) : Option Int :=
  if -2147483648 ≤ a - b ∧ a - b ≤ 2147483647 then some (a - b) else none

theorem minus?_eq_some {a b : Int} (ha : 0 ≤ a ∧ a ≤ 2147483647) (hb : 0 ≤ b ∧ b ≤ 2147483647) :
    minus? a b = some (a - b) := by
  unfold minus?
  rw [if_pos]
  omega

def Point.way? (start point : Point) : Option (Int × Int) := do
  let dx ← minus? point.x start.x
  let dy ← minus? point.y start.y
  return (dx, dy)

theorem Point.way?_eq_some {start point : Point} (hstart : start.IsWithin 2147483647)
    (hpoint : point.IsWithin 2147483647) :
    start.way? point = some (point.x - start.x, point.y - start.y) := by
  unfold way?
  rw [minus?_eq_some ⟨hpoint.x_nonneg, hpoint.x_le⟩ ⟨hstart.x_nonneg, hstart.x_le⟩,
    minus?_eq_some ⟨hpoint.y_nonneg, hpoint.y_le⟩ ⟨hstart.y_nonneg, hstart.y_le⟩]
  rfl

namespace Press

variable {press : Press} {point : Point}

def observed? (press : Press) (point : Point) : Option Press := do
  let (dx, dy) ← press.start.way? point
  let square := Precision.word.keep (Precision.word.keep (dx * dx) + Precision.word.keep (dy * dy))
  return { press with last := point, reach := max press.reach square }

theorem observed?_eq_some (hstart : press.start.IsWithin 2147483647)
    (hpoint : point.IsWithin 2147483647) :
    press.observed? point = some (press.observe .word point) := by
  unfold observed?
  rw [Point.way?_eq_some hstart hpoint]
  rfl

end Press

namespace Recognizer

variable {recognizer : Recognizer} {press : Press} {signal : Signal}

def stepPressed? (recognizer : Recognizer) (press : Press) :
    Signal → Option (Recognizer × List Gesture)
  | .tick now =>
    if press.isHeld now then
      return (enter (.holding press), [press.gesture .hold now 0 0])
    else
      return (recognizer, [])
  | .touch phase id point now =>
    if id ≠ press.id then
      return (recognizer, [])
    else
      match phase with
      | .down => return (enter (.pressed (Press.fresh id point now)), [])
      | .move => do
        let press ← press.observed? point
        if press.isHeld now then
          return (enter (.holding press), [press.gesture .hold now 0 0])
        else
          let (dx, dy) ← press.start.way? point
          match Precision.word.dragAxis? dx dy with
          | some axis =>
            return (enter (.dragging axis press), [press.gesture (.drag axis) now dx dy])
          | none => return ({ recognizer with stage := .pressed press }, [])
      | .up => do
        let press ← press.observed? point
        if press.isHeld now then
          return (⟨.idle, .hold⟩, [press.gesture .hold now 0 0])
        else if Time.elapsed press.since now < clickTimeout && press.isResting then
          return (⟨.idle, .click⟩, [press.gesture .click now 0 0])
        else
          return ({ recognizer with stage := .idle }, [])

def stepHolding? (recognizer : Recognizer) (press : Press) :
    Signal → Option (Recognizer × List Gesture)
  | .touch phase id point _ =>
    if id ≠ press.id then
      return (recognizer, [])
    else
      match phase with
      | .down => return (recognizer, [])
      | .move => do
        let press ← press.observed? point
        return ({ recognizer with stage := .holding press }, [])
      | .up => do
        -- Where the contact lifts is observed too, although nothing depends on it any more.
        let _ ← press.observed? point
        return ({ recognizer with stage := .idle }, [])
  | .tick _ => return (recognizer, [])

def stepDragging? (recognizer : Recognizer) (axis : Axis) (press : Press) :
    Signal → Option (Recognizer × List Gesture)
  | .touch phase id point now =>
    if id ≠ press.id then
      return (recognizer, [])
    else
      match phase with
      | .down => return (recognizer, [])
      | .move => do
        let (dx, dy) ← press.last.way? point
        let press ← press.observed? point
        return ({ recognizer with stage := .dragging axis press },
          if dx ≠ 0 ∨ dy ≠ 0 then [press.gesture (.drag axis) now dx dy] else [])
      | .up => do
        let press ← press.observed? point
        let (dx, dy) ← press.start.way? point
        return ({ recognizer with stage := .idle },
          [press.gesture (.dragEnd axis (Precision.word.swipe? axis dx)) now dx dy])
  | .tick _ => return (recognizer, [])

/--
The machine after one signal, and the gestures that the signal completes, if all differences of
coordinates that are taken are words.
-/
def step? (recognizer : Recognizer) (signal : Signal) : Option (Recognizer × List Gesture) :=
  match recognizer.stage with
  | .idle =>
    match signal with
    | .touch .down id point now => return (enter (.pressed (Press.fresh id point now)), [])
    | _ => return (recognizer, [])
  | .pressed press => recognizer.stepPressed? press signal
  | .holding press => recognizer.stepHolding? press signal
  | .dragging axis press => recognizer.stepDragging? axis press signal

theorem stepPressed?_eq_some (recognizer : Recognizer) (hstart : press.start.IsWithin 2147483647)
    (hsignal : signal.IsWithin 2147483647) :
    recognizer.stepPressed? press signal = some (recognizer.stepPressed .word press signal) := by
  unfold stepPressed? stepPressed
  cases signal with
  | tick now =>
    dsimp only
    split <;> rfl
  | touch phase id point now =>
    change point.IsWithin 2147483647 at hsignal
    have hobserve := Press.observed?_eq_some hstart hsignal
    have hway : (press.observe .word point).start.way? point =
        some (point.x - press.start.x, point.y - press.start.y) :=
      Point.way?_eq_some hstart hsignal
    dsimp only
    split
    . rfl
    . cases phase with
      | down => rfl
      | move =>
        dsimp only
        rw [hobserve, Option.bind_eq_bind, Option.bind_some]
        split
        . rfl
        . rw [hway, Option.bind_eq_bind, Option.bind_some]
          dsimp only
          have hobserved : (press.observe .word point).start = press.start := rfl
          rw [hobserved]
          cases Precision.word.dragAxis? (point.x - press.start.x) (point.y - press.start.y) <;> rfl
      | up =>
        dsimp only
        rw [hobserve, Option.bind_eq_bind, Option.bind_some]
        split
        . rfl
        . split <;> rfl

theorem stepHolding?_eq_some (recognizer : Recognizer) (hstart : press.start.IsWithin 2147483647)
    (hsignal : signal.IsWithin 2147483647) :
    recognizer.stepHolding? press signal = some (recognizer.stepHolding .word press signal) := by
  unfold stepHolding? stepHolding
  cases signal with
  | tick => rfl
  | touch phase id point now =>
    change point.IsWithin 2147483647 at hsignal
    have hobserve := Press.observed?_eq_some hstart hsignal
    dsimp only
    split
    . rfl
    . cases phase with
      | down => rfl
      | move | up =>
        dsimp only
        rw [hobserve]
        rfl

theorem stepDragging?_eq_some (recognizer : Recognizer) (axis : Axis)
    (hstart : press.start.IsWithin 2147483647) (hlast : press.last.IsWithin 2147483647)
    (hsignal : signal.IsWithin 2147483647) :
    recognizer.stepDragging? axis press signal =
      some (recognizer.stepDragging .word axis press signal) := by
  unfold stepDragging? stepDragging
  cases signal with
  | tick => rfl
  | touch phase id point now =>
    change point.IsWithin 2147483647 at hsignal
    have hobserve := Press.observed?_eq_some hstart hsignal
    dsimp only
    split
    . rfl
    . cases phase with
      | down => rfl
      | move =>
        dsimp only
        rw [Point.way?_eq_some hlast hsignal, hobserve]
        rfl
      | up =>
        have hway : (press.observe .word point).start.way? point =
            some (point.x - press.start.x, point.y - press.start.y) :=
          Point.way?_eq_some hstart hsignal
        dsimp only
        rw [hobserve, Option.bind_eq_bind, Option.bind_some, hway]
        rfl

theorem step?_eq_some (h : recognizer.stage.IsWithin 2147483647)
    (hsignal : signal.IsWithin 2147483647) :
    recognizer.step? signal = some (recognizer.step .word signal) := by
  unfold step? step
  cases hstage : recognizer.stage with
  | idle =>
    cases signal with
    | tick => rfl
    | touch phase => cases phase <;> rfl
  | pressed press =>
    obtain ⟨hstart, -⟩ := h press (by rw [hstage]; rfl)
    exact recognizer.stepPressed?_eq_some hstart hsignal
  | holding press =>
    obtain ⟨hstart, -⟩ := h press (by rw [hstage]; rfl)
    exact recognizer.stepHolding?_eq_some hstart hsignal
  | dragging axis press =>
    obtain ⟨hstart, hlast⟩ := h press (by rw [hstage]; rfl)
    exact recognizer.stepDragging?_eq_some axis hstart hlast hsignal

def run? (recognizer : Recognizer) : List Signal → Option (List (Recognizer × List Gesture))
  | [] => return []
  | signal :: signals => do
    let result ← recognizer.step? signal
    let results ← result.1.run? signals
    return result :: results

theorem run?_eq_some {signals : List Signal} (h : recognizer.stage.IsWithin 2147483647)
    (hsignals : ∀ signal ∈ signals, signal.IsWithin 2147483647) :
    recognizer.run? signals = some (recognizer.run .word signals) := by
  induction signals generalizing recognizer with
  | nil => rfl
  | cons signal signals ih =>
    rw [List.forall_mem_cons] at hsignals
    obtain ⟨hsignal, hsignals⟩ := hsignals
    unfold run? run
    rw [step?_eq_some h hsignal, Option.bind_eq_bind, Option.bind_some,
      ih (isWithin_step .word h hsignal) hsignals]
    rfl

end Recognizer

end TouchPanel.Gesture
