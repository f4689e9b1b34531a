import TouchPanel.Command.Basic
import TouchPanel.Proofs.Trace.Expecting
import TouchPanel.Proofs.Trace.Replay

/-!
This module contains when a replay meets what is expected of it. The labels of a run tell its kinds,
so the comparison with a text is passed exactly if the text lists them (`Command.expects_replay`).
-/

namespace TouchPanel

namespace Console

variable {console next : Console}

theorem run_bind {α β : Type} {action : Action α} {more : α → Action β} {a : α}
    (h : (action.run).run console = (.ok a, next)) :
    ((action >>= more).run).run console = ((more a).run).run next := by
  change (do
    let result ← action.run
    ExceptT.bindCont more result : StateM Console _).run console = _
  rw [StateT.run_bind, h]
  rfl

theorem run_print (text : String) (console : Console) :
    ((print text).run).run console = (.ok (), { console with out := console.out ++ text }) := rfl

theorem run_openFile {path : String} {entry : Files.Entry}
    (h : console.files.find path = .ok entry) :
    ((openFile path).run).run console = (.ok entry, console) := by
  have hget : ((get : Action Console).run).run console = (.ok console, console) := rfl
  unfold openFile
  rw [run_bind hget, h]
  rfl

theorem run_contents {entry : Files.Entry} {bytes : List UInt8} (h : entry.read = .ok bytes)
    (console : Console) : ((contents entry).run).run console = (.ok bytes, console) := by
  unfold contents
  rw [h]
  rfl

end Console

namespace Command

open Gesture (Kind)
open Trace (Lists readKindBytes textOf)

theorem reportReplay_eq_ok_iff {console : Console} {path : String} {bytes : List UInt8}
    (h : console.files.read path = .ok bytes) (gestures : List Gesture) :
    (((reportReplay gestures (some path)).run).run console).1 = .ok () ↔
      Trace.readKindBytes bytes = .ok (gestures.map Gesture.kind) := by
  unfold Files.read at h
  cases hfind : console.files.find path with
  | error fault =>
    rw [hfind] at h
    contradiction
  | ok entry =>
    rw [hfind] at h
    have hread : entry.read = .ok bytes := h
    unfold reportReplay
    rw [Console.run_bind (Console.run_print _ console)]
    generalize hprinted : { console with out := _ } = printed
    have hopened : printed.files.find path = .ok entry := hprinted ▸ hfind
    dsimp only
    rw [Console.run_bind (Console.run_openFile hopened),
      Console.run_bind (Console.run_contents hread printed)]
    cases Trace.readKindBytes bytes with
    | error failure =>
      constructor <;> nofun
    | ok expected =>
      have hexpected :
          ((Console.orFail (.ok expected : Except Failure _)).run).run printed =
            (.ok expected, printed) := rfl
      rw [Console.run_bind hexpected, Except.ok.injEq]
      split
      . next hne =>
        constructor
        . nofun
        . exact fun heq => absurd heq.symm hne
      . next heq =>
        rw [Decidable.not_not] at heq
        exact iff_of_true rfl heq.symm

theorem isLabelled_replay (reference : Reference) (samples : List Sample) :
    Gesture.IsLabelled (Trace.replay reference samples) := by
  rw [Trace.replay_eq_performAll]
  apply Gesture.Classifier.isLabelled_performAll

theorem labelled_of_isLabelled {gestures : List Gesture} (h : Gesture.IsLabelled gestures) :
    ∀ kind ∈ gestures.map Gesture.kind, kind ∈ Kind.labelled :=
  List.forall_mem_map.2 h

/--
The kinds of a replay are read from a text exactly if its lines list them, and exactly then the
comparison of the replay with the text is passed. The labels of the replay, one to a line, are such
lines. Two replays with the same labels have the same kinds.
-/
theorem expects_replay (reference : Reference) (samples : List Sample) :
    let gestures := Trace.replay reference samples
    let kinds := gestures.map Gesture.kind
    let labels := kinds.map Kind.label
    (∀ lines, (∀ line ∈ lines, '\n' ∉ line.toList) →
      (readKindBytes (textOf lines).toUTF8.toList = .ok kinds ↔ Lists kinds lines) ∧
      ∀ (console : Console) (path : String),
        console.files.read path = .ok (textOf lines).toUTF8.toList →
          ((((reportReplay gestures (some path)).run).run console).1 = .ok () ↔
            Lists kinds lines)) ∧
    ((∀ label ∈ labels, '\n' ∉ label.toList) ∧ Lists kinds labels) ∧
    ∀ (otherReference : Reference) (otherSamples : List Sample),
      let others := (Trace.replay otherReference otherSamples).map Gesture.kind
      labels = others.map Kind.label ↔ kinds = others := by
  intro gestures kinds labels
  have hkinds : ∀ kind ∈ kinds, kind ∈ Kind.labelled :=
    labelled_of_isLabelled (isLabelled_replay reference samples)
  refine ⟨?_, ⟨?_, Trace.lists_map_label kinds⟩, ?_⟩
  . intro lines hlines
    have hread := Trace.readKindBytes_eq_ok_iff hlines hkinds
    refine ⟨hread, ?_⟩
    intro console path hpath
    rw [reportReplay_eq_ok_iff hpath]
    exact hread
  . rw [List.forall_mem_map]
    intro kind _
    exact (Trace.isLine_label kind).1
  . intro otherReference otherSamples others
    exact Kind.map_label_inj hkinds
      (labelled_of_isLabelled (isLabelled_replay otherReference otherSamples))

/--
A contact that goes straight down, and a file that lists its gestures among lines that are no
labels, with letters in upper case.
-/
theorem expects_replay_vertical :
    let press : Sample := ⟨.down, 1, 0, 0, 1, 0, .touch⟩
    let samples : List Sample :=
      [press, { press with phase := .move, y := 1, time := 20 },
        { press with phase := .up, y := 1, time := 40 }]
    let lines := ["# one stroke", "", "  DRAG_vertical\r", "Drag_End_Vertical\t"]
    let bytes := (textOf lines).toUTF8.toList
    let console : Console :=
      { out := "", err := "", files := ⟨[(["expected"], .file bytes)]⟩, filter := ⟨none⟩,
        logPath := none, clock := 0 }
    ((∀ line ∈ lines, '\n' ∉ line.toList) ∧ console.files.read "expected" = .ok bytes) ∧
      (Trace.replay .standard samples).map Gesture.kind =
        [.drag .vertical, .dragEnd .vertical none] ∧
      readKindBytes bytes = .ok ((Trace.replay .standard samples).map Gesture.kind) ∧
      (((reportReplay (Trace.replay .standard samples) (some "expected")).run).run console).1 =
        .ok () := by
  intro press samples lines bytes console
  have hkinds : (Trace.replay .standard samples).map Gesture.kind =
      [.drag .vertical, .dragEnd .vertical none] := by decide
  have hlines : ∀ line ∈ lines, '\n' ∉ line.toList := by decide
  have hlists : Lists [.drag .vertical, .dragEnd .vertical none] lines := by
    refine .passed ?_ (.passed ?_ (.label ?_ (.label ?_ .nil)))
    . decide
    . decide
    . rw [Trace.names_iff]
      decide
    . rw [Trace.names_iff]
      decide
  have hfile : console.files.read "expected" = .ok bytes := by
    have hcheck : Files.check "expected" = .ok () := rfl
    have hnames : Files.names "expected" = ["expected"] := by decide +kernel
    have hfolder : Files.namesFolder "expected" = false := by decide +kernel
    unfold Files.read Files.find
    rw [hcheck, hnames, hfolder]
    rfl
  obtain ⟨hread, hcompare⟩ := (expects_replay .standard samples).1 lines hlines
  rw [hkinds] at hread hcompare
  refine ⟨⟨hlines, hfile⟩, hkinds, ?_, (hcompare console "expected" hfile).2 hlists⟩
  rw [hkinds]
  exact hread.2 hlists

end Command

end TouchPanel
