import TouchPanel.Pointer.Stroke
import TouchPanel.Proofs.Gesture.Step

/-!
This module contains the proof that a classifier reports words of a language: clicks, holds, and
drags that end (`Classifier.grammar_performAll`).

The run is cut into interactions, one for each press that begins. `Stage.Speaks` says which words an
interaction can have come to when the machine is in a stage.
-/

namespace TouchPanel.Gesture

inductive IsWhole : List Kind → Prop where
  | click : IsWhole [.click]
  | hold : IsWhole [.hold]
  | drag (axis : Axis) (swipe : Option Direction) (count : Nat)
    (hswipe : axis = .vertical → swipe = none) :
    IsWhole (List.replicate (count + 1) (.drag axis) ++ [.dragEnd axis swipe])

def IsWord (kinds : List Kind) : Prop :=
  ∃ words : List (List Kind), (∀ word ∈ words, IsWhole word) ∧ words.flatten = kinds

/--
Whole words, and then the steps of a drag that has not ended.
-/
def EndsInDrag (axis : Axis) (kinds : List Kind) : Prop :=
  ∃ before count, IsWord before ∧ kinds = before ++ List.replicate (count + 1) (.drag axis)

/--
The time from one press to the next: the contact, its point, and the gestures that are reported.
-/
structure Interaction where
  id : UInt32
  start : Point
  gestures : List Gesture
  deriving DecidableEq, Repr

namespace Interaction

def word (interaction : Interaction) : List Kind :=
  interaction.gestures.map Gesture.kind

def extend (interaction : Interaction) (gestures : List Gesture) : Interaction :=
  { interaction with gestures := interaction.gestures ++ gestures }

def IsCarried (interaction : Interaction) : Prop :=
  ∀ gesture ∈ interaction.gestures,
    gesture.id = interaction.id ∧ gesture.start = interaction.start

end Interaction

namespace Classifier

inductive Call where
  | handle (sample : Sample)
  | tick (now : UInt64)
  deriving DecidableEq, Repr

def heard (classifier : Classifier) : Call → Signal
  | .handle sample => signal classifier.reference sample
  | .tick now => .tick now

def perform (classifier : Classifier) : Call → Classifier × List Gesture
  | .handle sample => classifier.handle sample
  | .tick now => classifier.tick now

def performAll (classifier : Classifier) : List Call → Classifier × List Gesture
  | [] => (classifier, [])
  | call :: calls =>
    let (next, gestures) := classifier.perform call
    let (last, rest) := next.performAll calls
    (last, gestures ++ rest)

def phase (classifier : Classifier) : Class := classifier.recognizer.stage.phase

def primary? (classifier : Classifier) : Option UInt32 := classifier.recognizer.stage.primary?

def begun? (classifier : Classifier) (call : Call) : Option (UInt32 × Point) :=
  classifier.recognizer.stage.begun? (classifier.heard call)

def interactions (classifier : Classifier) (present : Option Interaction) :
    List Call → List Interaction
  | [] => present.toList
  | call :: calls =>
    let (next, gestures) := classifier.perform call
    match classifier.begun? call with
    | some (id, start) => present.toList ++ next.interactions (some ⟨id, start, gestures⟩) calls
    | none => next.interactions (present.map (·.extend gestures)) calls

def phasesOf (id : UInt32) : List Call → List Phase
  | [] => []
  | .handle sample :: calls =>
    if sample.id = id then sample.phase :: phasesOf id calls else phasesOf id calls
  | .tick _ :: calls => phasesOf id calls

end Classifier

namespace Stage

inductive Speaks : Stage → List Kind → Prop where
  | silent : Speaks .idle []
  | whole {word : List Kind} (h : IsWhole word) : Speaks .idle word
  | pressed (press : Press) : Speaks (.pressed press) []
  | holding (press : Press) : Speaks (.holding press) [.hold]
  | dragging (axis : Axis) (press : Press) (count : Nat) :
    Speaks (.dragging axis press) (List.replicate (count + 1) (.drag axis))

/--
What an interaction is, seen from the stage that it has led to.
-/
structure Fits (stage : Stage) (interaction : Interaction) : Prop where
  speaks : stage.Speaks interaction.word
  isCarried : interaction.IsCarried
  press : ∀ press, stage.press? = some press →
    press.id = interaction.id ∧ press.start = interaction.start

variable {stage next : Stage} {gestures : List Gesture} {interaction : Interaction}

theorem speaks_continues {word : List Kind} (h : stage.Speaks word)
    (hnext : stage.Continues gestures next) : next.Speaks (word ++ gestures.map Gesture.kind) := by
  cases hnext with
  | idle =>
    rw [List.map_nil, List.append_nil]
    exact h
  | press =>
    cases h
    exact .pressed _
  | hold _ hgesture =>
    cases h
    rw [List.map_singleton, hgesture.kind]
    exact .holding _
  | drag _ hgesture =>
    cases h
    rw [List.map_singleton, hgesture.kind]
    exact .dragging _ _ 0
  | lift =>
    cases h
    exact .silent
  | liftClick hgesture =>
    cases h
    rw [List.map_singleton, hgesture.kind]
    exact .whole .click
  | liftHold hgesture =>
    cases h
    rw [List.map_singleton, hgesture.kind]
    exact .whole .hold
  | holding =>
    cases h
    exact .holding _
  | holdingLift =>
    cases h
    exact .whole .hold
  | dragging =>
    cases h
    rw [List.map_nil, List.append_nil]
    exact .dragging _ _ _
  | dragStep _ hgesture =>
    cases h
    rw [List.map_singleton, hgesture.kind, ← List.replicate_succ']
    exact .dragging _ _ _
  | dragEnd hswipe hgesture =>
    cases h
    rw [List.map_singleton, hgesture.kind]
    exact .whole (.drag _ _ _ hswipe)

theorem fits_continues (h : stage.Fits interaction) (hnext : stage.Continues gestures next) :
    next.Fits (interaction.extend gestures) := by
  constructor
  . unfold Interaction.word Interaction.extend
    rw [List.map_append]
    exact speaks_continues h.speaks hnext
  . intro gesture hmem
    rcases List.mem_append.1 hmem with hbefore | hnew
    . exact h.isCarried gesture hbefore
    . obtain ⟨press, kind, hpress, hreports⟩ := reports_of_continues hnext hnew
      rw [hreports.id, hreports.start]
      exact h.press press hpress
  . intro later hlater
    obtain ⟨press, hpress, hsame⟩ := press?_of_continues hnext hlater
    rw [hsame.id, hsame.start]
    exact h.press press hpress

theorem fits_fresh (id : UInt32) (start : Point) (now : UInt64) :
    (pressed (Press.fresh id start now)).Fits ⟨id, start, []⟩ := by
  constructor
  . exact .pressed _
  . intro gesture hmem
    exact absurd hmem List.not_mem_nil
  . intro press hpress
    obtain rfl := Option.some.inj hpress
    exact ⟨rfl, rfl⟩

theorem fits_idle_of_begun {signal : Signal} {begun : UInt32 × Point} (h : stage.Fits interaction)
    (hbegun : stage.begun? signal = some begun) : idle.Fits interaction := by
  refine ⟨?_, h.isCarried, nofun⟩
  have hspeaks := h.speaks
  generalize interaction.word = word at hspeaks
  cases hspeaks with
  | silent => exact .silent
  | whole hword => exact .whole hword
  | pressed => exact .silent
  | holding press =>
    rw [begun?_holding] at hbegun
    contradiction
  | dragging axis press =>
    rw [begun?_dragging] at hbegun
    contradiction

theorem whole_of_speaks {word : List Kind} (h : stage.Speaks word) :
    ∃ rest, IsWhole (word ++ rest) := by
  cases h with
  | silent => exact ⟨_, .click⟩
  | whole hword =>
    refine ⟨[], ?_⟩
    rw [List.append_nil]
    exact hword
  | pressed => exact ⟨_, .click⟩
  | holding => exact ⟨[], .hold⟩
  | dragging axis press count => exact ⟨_, .drag axis none count fun _ => rfl⟩

end Stage

theorem isWord_nil : IsWord [] := ⟨[], nofun, rfl⟩

theorem isWord_of_isWhole {word : List Kind} (h : IsWhole word) : IsWord word :=
  ⟨[word], by simpa using h, List.flatten_singleton⟩

theorem isWord_append {kinds more : List Kind} (h : IsWord kinds) (hmore : IsWord more) :
    IsWord (kinds ++ more) := by
  obtain ⟨words, hwords, rfl⟩ := h
  obtain ⟨moreWords, hmoreWords, rfl⟩ := hmore
  refine ⟨words ++ moreWords, ?_, List.flatten_append⟩
  intro word hmem
  rcases List.mem_append.1 hmem with hword | hword
  . exact hwords word hword
  . exact hmoreWords word hword

theorem isWord_of_speaks_idle {word : List Kind} (h : Stage.idle.Speaks word) : IsWord word := by
  cases h with
  | silent => exact isWord_nil
  | whole hword => exact isWord_of_isWhole hword

theorem isWord_flatMap {interactions : List Interaction}
    (h : ∀ interaction ∈ interactions, Stage.idle.Fits interaction) :
    IsWord (interactions.flatMap Interaction.word) := by
  induction interactions with
  | nil => exact isWord_nil
  | cons interaction interactions ih =>
    rw [List.forall_mem_cons] at h
    rw [List.flatMap_cons]
    exact isWord_append (isWord_of_speaks_idle h.1.speaks) (ih h.2)

theorem getLast?_ne_drag_of_isWhole {word : List Kind} (h : IsWhole word) (axis : Axis) :
    word ≠ [] ∧ word.getLast? ≠ some (.drag axis) := by
  cases h <;> simp

theorem getLast?_ne_drag {kinds : List Kind} (h : IsWord kinds) (axis : Axis) :
    kinds.getLast? ≠ some (.drag axis) := by
  obtain ⟨words, hwords, rfl⟩ := h
  induction words with
  | nil => exact nofun
  | cons word words ih =>
    rw [List.forall_mem_cons] at hwords
    rw [List.flatten_cons, List.getLast?_append]
    cases hlast : words.flatten.getLast? with
    | none => exact (getLast?_ne_drag_of_isWhole hwords.1 axis).2
    | some last =>
      rw [Option.some_or, ← hlast]
      exact ih hwords.2

theorem getLast?_of_endsInDrag {axis : Axis} {kinds : List Kind} (h : EndsInDrag axis kinds) :
    kinds.getLast? = some (.drag axis) := by
  obtain ⟨before, count, -, rfl⟩ := h
  rw [List.replicate_succ', ← List.append_assoc, List.getLast?_concat]

theorem kinds_of_speaks {stage : Stage} {before word : List Kind} (hbefore : IsWord before)
    (h : stage.Speaks word) :
    (∃ rest, IsWord (before ++ word ++ rest)) ∧
      (∀ axis, stage.phase = .drag axis ↔ EndsInDrag axis (before ++ word)) ∧
      ((∀ axis, stage.phase ≠ .drag axis) → IsWord (before ++ word)) := by
  have hbegins : ∃ rest, IsWord (before ++ word ++ rest) := by
    obtain ⟨rest, hrest⟩ := Stage.whole_of_speaks h
    refine ⟨rest, ?_⟩
    rw [List.append_assoc]
    exact isWord_append hbefore (isWord_of_isWhole hrest)
  have hdrag : ∀ axis, stage.phase = .drag axis → EndsInDrag axis (before ++ word) := by
    intro axis hphase
    cases h with
    | dragging _ press count =>
      obtain rfl := Class.drag.inj hphase
      exact ⟨before, count, hbefore, rfl⟩
    | silent | whole | pressed | holding => contradiction
  have hword : (∀ axis, stage.phase ≠ .drag axis) → IsWord (before ++ word) := by
    intro hphase
    apply isWord_append hbefore
    cases h with
    | silent => exact isWord_nil
    | whole hwhole => exact isWord_of_isWhole hwhole
    | pressed => exact isWord_nil
    | holding => exact isWord_of_isWhole .hold
    | dragging axis => exact absurd rfl (hphase axis)
  refine ⟨hbegins, ?_, hword⟩
  intro axis
  refine ⟨hdrag axis, ?_⟩
  intro hends
  -- The last gesture tells the drag from all other stages.
  have hlast := getLast?_of_endsInDrag hends
  by_cases hother : ∃ other, stage.phase = .drag other
  . obtain ⟨other, hother⟩ := hother
    rw [getLast?_of_endsInDrag (hdrag other hother)] at hlast
    obtain rfl := Kind.drag.inj (Option.some.inj hlast)
    exact hother
  . rw [not_exists] at hother
    exact absurd hlast (getLast?_ne_drag (hword hother) axis)

namespace Classifier

variable {classifier : Classifier} {present : Option Interaction}

theorem perform_eq (classifier : Classifier) (call : Call) :
    classifier.perform call = classifier.feed (classifier.heard call) := by
  cases call <;> rfl

theorem gestures_perform (classifier : Classifier) (call : Call) :
    (classifier.perform call).2 =
      (classifier.recognizer.step .word (classifier.heard call)).2 := by
  rw [perform_eq]
  unfold feed
  apply List.take_of_length_le
  apply Nat.le_trans (Recognizer.length_step_le .word ..)
  decide

theorem stage_perform (classifier : Classifier) (call : Call) :
    (classifier.perform call).1.recognizer =
      (classifier.recognizer.step .word (classifier.heard call)).1 := by
  rw [perform_eq]
  rfl

structure Tells (classifier : Classifier) (present : Option Interaction) : Prop where
  idle : present = none → classifier.recognizer.stage = .idle
  fits : ∀ interaction, present = some interaction → classifier.recognizer.stage.Fits interaction

theorem tells_new (reference : Reference) : Tells (new reference) none :=
  ⟨fun _ => rfl, nofun⟩

theorem tells_continues (h : Tells classifier present) {call : Call}
    (hbegun : classifier.begun? call = none) :
    Tells (classifier.perform call).1
      (present.map (·.extend (classifier.perform call).2)) ∧
    (present = none → (classifier.perform call).2 = []) := by
  have hnext := Recognizer.continues_step .word hbegun
  rw [← gestures_perform, ← stage_perform] at hnext
  cases present with
  | none =>
    rw [h.idle rfl] at hnext
    generalize hgestures : (classifier.perform call).2 = gestures at hnext
    generalize hstage : (classifier.perform call).1.recognizer.stage = stage at hnext
    cases hnext with
    | idle => exact ⟨⟨fun _ => hstage, nofun⟩, fun _ => rfl⟩
  | some interaction =>
    refine ⟨⟨nofun, ?_⟩, nofun⟩
    intro extended hextended
    obtain rfl := Option.some.inj hextended
    exact Stage.fits_continues (h.fits interaction rfl) hnext

theorem tells_begun {call : Call} {id : UInt32} {start : Point}
    (hbegun : classifier.begun? call = some (id, start)) :
    Tells (classifier.perform call).1 (some ⟨id, start, (classifier.perform call).2⟩) ∧
      (classifier.perform call).2 = [] := by
  obtain ⟨now, hstep⟩ := Recognizer.step_of_begun .word hbegun
  have hgestures : (classifier.perform call).2 = [] := by
    rw [gestures_perform, hstep]
  refine ⟨⟨nofun, ?_⟩, hgestures⟩
  intro interaction hinteraction
  obtain rfl := Option.some.inj hinteraction
  rw [hgestures, stage_perform, hstep]
  exact Stage.fits_fresh id start now

theorem gestures_extend {gestures : List Gesture} (h : present = none → gestures = []) :
    (present.map (·.extend gestures)).toList.flatMap Interaction.gestures =
      present.toList.flatMap Interaction.gestures ++ gestures := by
  cases present with
  | none =>
    rw [h rfl]
    rfl
  | some interaction => simp [Interaction.extend]

theorem interactions_performAll (h : Tells classifier present) (calls : List Call) :
    (∃ before last, classifier.interactions present calls = before ++ last.toList ∧
      Tells (classifier.performAll calls).1 last ∧
      ∀ interaction ∈ before, Stage.idle.Fits interaction) ∧
    (classifier.interactions present calls).flatMap Interaction.gestures =
      present.toList.flatMap Interaction.gestures ++ (classifier.performAll calls).2 := by
  induction calls generalizing classifier present with
  | nil => exact ⟨⟨[], present, rfl, h, nofun⟩, (List.append_nil _).symm⟩
  | cons call calls ih =>
    unfold interactions performAll
    dsimp only
    cases hbegun : classifier.begun? call with
    | none =>
      -- The call goes on with the present interaction.
      obtain ⟨hnext, hnone⟩ := tells_continues h hbegun
      obtain ⟨htold, hgestures⟩ := ih hnext
      refine ⟨htold, ?_⟩
      rw [hgestures, gestures_extend hnone, List.append_assoc]
    | some begun =>
      -- The present interaction is over, and the call begins another one.
      obtain ⟨id, start⟩ := begun
      obtain ⟨hnext, hnone⟩ := tells_begun hbegun
      obtain ⟨⟨before, last, htold, hlast, hbefore⟩, hgestures⟩ := ih hnext
      constructor
      . refine ⟨present.toList ++ before, last, ?_, hlast, ?_⟩
        . dsimp only
          rw [htold, List.append_assoc]
        . rw [List.forall_mem_append]
          refine ⟨?_, hbefore⟩
          intro interaction hmem
          rw [Option.mem_toList] at hmem
          exact Stage.fits_idle_of_begun (h.fits interaction hmem) hbegun
      . dsimp only
        rw [List.flatMap_append, hgestures, hnone]
        rfl

theorem map_kind_gestures (interactions : List Interaction) :
    (interactions.flatMap Interaction.gestures).map Gesture.kind =
      interactions.flatMap Interaction.word := by
  rw [List.map_flatMap]
  rfl

theorem speaks_of_tells (h : Tells classifier present) :
    classifier.recognizer.stage.Speaks (present.toList.flatMap Interaction.word) := by
  cases present with
  | none =>
    rw [h.idle rfl]
    exact .silent
  | some interaction =>
    rw [Option.toList_some, List.flatMap_singleton]
    exact (h.fits interaction rfl).speaks

theorem isCarried_of_tells (h : Tells classifier present) :
    ∀ interaction ∈ present.toList,
      interaction.IsCarried ∧ ∃ rest, IsWhole (interaction.word ++ rest) := by
  intro interaction hmem
  rw [Option.mem_toList] at hmem
  have hfits := h.fits interaction hmem
  exact ⟨hfits.isCarried, Stage.whole_of_speaks hfits.speaks⟩

theorem phase_eq_idle_iff (classifier : Classifier) :
    classifier.phase = .idle ↔ classifier.primary? = none := by
  unfold phase primary?
  cases classifier.recognizer.stage <;> simp [Stage.phase, Stage.primary?, Stage.press?]

theorem primary?_perform {call : Call} {id : UInt32}
    (h : (classifier.perform call).1.primary? = some id) :
    (∃ sample, call = .handle sample ∧ sample.phase = .down ∧ sample.id = id) ∨
      (classifier.primary? = some id ∧
        ∀ sample, call = .handle sample → sample.id = id → sample.phase ≠ .up) := by
  unfold primary? at h
  rw [stage_perform] at h
  rcases Recognizer.primary?_step .word h with ⟨point, now, hsignal⟩ | ⟨hbefore, hsignal⟩
  . apply Or.inl
    cases call with
    | handle sample =>
      unfold heard signal at hsignal
      obtain ⟨hphase, hid, -, -⟩ := Signal.touch.inj hsignal
      exact ⟨sample, rfl, hphase, hid⟩
    | tick => contradiction
  . apply Or.inr
    refine ⟨hbefore, ?_⟩
    rintro sample rfl rfl hphase
    apply hsignal (classifier.reference.point sample) sample.time
    unfold heard signal
    dsimp only
    rw [hphase]

theorem primary?_eq_none_of_closed {isDown : UInt32 → Bool}
    (hprimary : ∀ id, classifier.primary? = some id → isDown id = true) {calls : List Call}
    (hclosed : ∀ id, Stroke.run (isDown id) (phasesOf id calls) = some false) :
    (classifier.performAll calls).1.primary? = none := by
  induction calls generalizing classifier isDown with
  | nil =>
    rw [Option.eq_none_iff_forall_ne_some]
    intro id hid
    have hopen := hclosed id
    unfold phasesOf at hopen
    rw [Stroke.run_nil, hprimary id hid] at hopen
    contradiction
  | cons call calls ih =>
    unfold performAll
    dsimp only
    cases call with
    | tick now =>
      apply @ih _ isDown
      . intro id hid
        rcases primary?_perform hid with ⟨sample, hcall, -⟩ | ⟨hbefore, -⟩
        . contradiction
        . exact hprimary id hbefore
      . exact hclosed
    | handle sample =>
      have hnext : ∀ id, sample.id = id →
          ∃ after, Stroke.next (isDown id) sample.phase = some after ∧
            Stroke.run after (phasesOf id calls) = some false := by
        intro id hid
        have hstroke := hclosed id
        unfold phasesOf at hstroke
        rw [if_pos hid, Stroke.run_cons] at hstroke
        exact Option.bind_eq_some_iff.1 hstroke
      have hother : ∀ id, sample.id ≠ id →
          Stroke.run (isDown id) (phasesOf id calls) = some false := by
        intro id hid
        have hstroke := hclosed id
        unfold phasesOf at hstroke
        rw [if_neg hid] at hstroke
        exact hstroke
      apply @ih _ fun id =>
        if sample.id = id then (Stroke.next (isDown id) sample.phase).getD false else isDown id
      . intro id hid
        by_cases hsame : sample.id = id
        . obtain ⟨after, hafter, -⟩ := hnext id hsame
          rw [if_pos hsame, hafter, Option.getD_some]
          rcases primary?_perform hid with ⟨other, hcall, hphase, -⟩ | ⟨hbefore, hup⟩
          . obtain rfl := Call.handle.inj hcall
            rw [hphase] at hafter
            cases hdown : isDown id <;> simp_all [Stroke.next]
          . -- The contact was down and has not lifted, so it moves.
            have hphase := hup sample rfl hsame
            rw [hprimary id hbefore] at hafter
            cases hkind : sample.phase <;> simp_all [Stroke.next]
        . rw [if_neg hsame]
          rcases primary?_perform hid with ⟨other, hcall, -, hid'⟩ | ⟨hbefore, -⟩
          . obtain rfl := Call.handle.inj hcall
            contradiction
          . exact hprimary id hbefore
      . intro id
        by_cases hsame : sample.id = id
        . obtain ⟨after, hafter, hrest⟩ := hnext id hsame
          rw [if_pos hsame, hafter]
          exact hrest
        . rw [if_neg hsame]
          exact hother id hsame

theorem isWord_of_closed (reference : Reference) {calls : List Call}
    (hclosed : ∀ id, Stroke.Closed (phasesOf id calls)) :
    ((new reference).performAll calls).1.phase = .idle ∧
      IsWord (((new reference).performAll calls).2.map Gesture.kind) := by
  obtain ⟨⟨before, present, htold, htells, hbefore⟩, hgestures⟩ :=
    interactions_performAll (tells_new reference) calls
  have hidle : ((new reference).performAll calls).1.phase = .idle := by
    rw [phase_eq_idle_iff]
    apply @primary?_eq_none_of_closed _ fun _ => false
    . exact nofun
    . exact hclosed
  obtain ⟨-, -, hword⟩ := kinds_of_speaks (isWord_flatMap hbefore) (speaks_of_tells htells)
  rw [← List.flatMap_append, ← htold, ← map_kind_gestures, hgestures] at hword
  refine ⟨hidle, hword ?_⟩
  intro axis hphase
  have hstage := hphase.symm.trans hidle
  contradiction

/--
Whatever a classifier is called for, each call reports one gesture at most, and the gestures are a
prefix of whole interactions: clicks, holds and drags that end. A drag is open exactly while the
classifier is in it. Each gesture carries the contact and the point of its interaction. If the
strokes of all contacts end, so do the interactions.
-/
theorem grammar_performAll (reference : Reference) (calls : List Call) :
    let last := ((new reference).performAll calls).1
    let reported := ((new reference).performAll calls).2
    let told := (new reference).interactions none calls
    (∀ call, (last.recognizer.step .word (last.heard call)).2.length ≤ 1 ∧
      (last.perform call).2 = (last.recognizer.step .word (last.heard call)).2) ∧
    (last.phase = .idle ↔ last.primary? = none) ∧
    (∃ rest, IsWord (reported.map Gesture.kind ++ rest)) ∧
    (∀ axis, last.phase = .drag axis ↔ EndsInDrag axis (reported.map Gesture.kind)) ∧
    (told.flatMap Interaction.gestures = reported ∧
      ∀ interaction ∈ told, interaction.IsCarried ∧ ∃ rest, IsWhole (interaction.word ++ rest)) ∧
    ((∀ id, Stroke.Closed (phasesOf id calls)) →
      last.phase = .idle ∧ IsWord (reported.map Gesture.kind)) := by
  intro last reported told
  obtain ⟨⟨before, present, htold, htells, hbefore⟩, hgestures⟩ :=
    interactions_performAll (tells_new reference) calls
  have hreported : told.flatMap Interaction.gestures = reported := hgestures
  have hkinds : reported.map Gesture.kind =
      before.flatMap Interaction.word ++ present.toList.flatMap Interaction.word := by
    rw [← hreported, map_kind_gestures, ← List.flatMap_append, ← htold]
  have hlast : last.recognizer.stage.Speaks (present.toList.flatMap Interaction.word) :=
    speaks_of_tells htells
  obtain ⟨hbegins, hdrag, hword⟩ := kinds_of_speaks (isWord_flatMap hbefore) hlast
  rw [← hkinds] at hbegins hdrag hword
  refine ⟨?_, last.phase_eq_idle_iff, hbegins, hdrag, ⟨hreported, ?_⟩, ?_⟩
  . intro call
    exact ⟨Recognizer.length_step_le .word .., last.gestures_perform call⟩
  . have hall : told = before ++ present.toList := htold
    rw [hall, List.forall_mem_append]
    refine ⟨?_, isCarried_of_tells htells⟩
    intro interaction hmem
    have hfits := hbefore interaction hmem
    exact ⟨hfits.isCarried, Stage.whole_of_speaks hfits.speaks⟩
  . intro hclosed
    have hidle : last.phase = .idle := by
      rw [phase_eq_idle_iff]
      apply @primary?_eq_none_of_closed _ fun _ => false
      . exact nofun
      . exact hclosed
    refine ⟨hidle, ?_⟩
    apply hword
    intro axis hphase
    have hstage : last.recognizer.stage.phase = .idle := hidle
    rw [hstage] at hphase
    contradiction

/--
A contact rests until it is a hold, and lifts.
-/
theorem grammar_performAll_held :
    let press : Sample := ⟨.down, 1, 0, 0, 1, 0, .touch⟩
    let calls : List Call := [.handle press, .tick 600, .handle (press.lifted 700)]
    (∀ id, Stroke.Closed (phasesOf id calls)) ∧
      ((new .standard).performAll calls).2.map Gesture.kind = [.hold] ∧
      ((new .standard).performAll calls).1.phase = .idle := by
  intro press calls
  have hclosed : ∀ id, Stroke.Closed (phasesOf id calls) := by
    intro id
    by_cases hid : press.id = id
    . have hphases : phasesOf id calls = [.down, .up] := by
        simp [calls, phasesOf, press, Sample.lifted, ← hid]
      rw [hphases]
      rfl
    . have hphases : phasesOf id calls = [] := by
        simp_all [calls, phasesOf, press, Sample.lifted]
      rw [hphases]
      rfl
  exact ⟨hclosed, by decide, ((grammar_performAll .standard calls).2.2.2.2.2 hclosed).1⟩

end Classifier

end TouchPanel.Gesture
