import TouchPanel.Proofs.Gesture.Tick
import TouchPanel.Proofs.Trace.Replay

/-!
This module contains that more ticks than those of a replay make no difference, except that a hold
may be reported at an earlier time (`Trace.isEarlier_tickingCalls`). The same holds of a run that
has no tick at the times of the samples, if it ticks often enough to find each hold between two of
them.

After each sample the two runs are in the same state. In between they are not: a press may have
become a hold in one of them, which the tick of the replay then makes of it in the other one too.
-/

namespace TouchPanel.Trace

open Gesture (Classifier IsEarlier Press isEarlier_refl)
open Gesture.Classifier (Call)

structure Gap where
  ticks : List UInt64
  sample : Sample
  deriving DecidableEq, Repr

def Gap.calls (gap : Gap) : List Call := gap.ticks.map .tick ++ [.handle gap.sample]

def tickingCalls (gaps : List Gap) (closing : List UInt64) : List Call :=
  gaps.flatMap Gap.calls ++ closing.map .tick

/--
The tick of a replay at some time, and more ticks before it or after it, none at a later time.
-/
structure AddsTo (now : UInt64) (ticks : List UInt64) : Prop where
  mem : now ∈ ticks
  le : ∀ tick ∈ ticks, tick ≤ now

/--
The ticks of a replay, and more between the samples and after the last one.
-/
structure AddsTicks (gaps : List Gap) (closing : List UInt64) : Prop where
  between : ∀ gap ∈ gaps, AddsTo gap.sample.time gap.ticks
  closing : ∀ last ∈ gaps.getLast?,
    AddsTo (Time.after last.sample.time Gesture.holdThreshold) closing

/--
Ticks up to some time, one of them at a time when it finds due what has become due for a hold since
the sample before.
-/
structure IsTimely (before : List Gap) (now : UInt64) (ticks : List UInt64) : Prop where
  le : ∀ tick ∈ ticks, tick ≤ now
  due : ∀ gap ∈ before, gap.sample.phase = .down → Press.IsDue gap.sample.time now →
    (∃ last ∈ before.getLast?, Press.IsDue gap.sample.time last.sample.time) ∨
      ∃ tick ∈ ticks, Press.IsDue gap.sample.time tick

/--
Ticks that are often enough for every hold between two samples or after the last one.
-/
structure TicksOften (gaps : List Gap) (closing : List UInt64) : Prop where
  between : ∀ before gap after, gaps = before ++ gap :: after →
    IsTimely before gap.sample.time gap.ticks
  closing : ∀ last ∈ gaps.getLast?,
    IsTimely gaps (Time.after last.sample.time Gesture.holdThreshold) closing

theorem isTimely_of_addsTo {now : UInt64} {ticks : List UInt64} (before : List Gap)
    (h : AddsTo now ticks) : IsTimely before now ticks :=
  ⟨h.le, fun _ _ _ hdue => Or.inr ⟨now, h.mem, hdue⟩⟩

theorem ticksOften_of_addsTicks {gaps : List Gap} {closing : List UInt64}
    (h : AddsTicks gaps closing) : TicksOften gaps closing := by
  constructor
  . rintro before gap after rfl
    apply isTimely_of_addsTo
    apply h.between
    exact List.mem_append_right _ List.mem_cons_self
  . intro last hlast
    exact isTimely_of_addsTo gaps (h.closing last hlast)

/--
What is known of a press after some samples: one of them has begun it, and it was not due for a hold
at the last one.
-/
structure Awaits (classifier : Classifier) (gaps : List Gap) : Prop where
  begun : ∀ press, classifier.recognizer.stage = .pressed press →
    ∃ gap ∈ gaps, gap.sample.phase = .down ∧ press.since = gap.sample.time
  fresh : ∀ press, classifier.recognizer.stage = .pressed press →
    ∀ last ∈ gaps.getLast?, press.isHeld last.sample.time = false

variable {classifier : Classifier} {gaps : List Gap} {now : UInt64} {ticks closing : List UInt64}

theorem exists_tick_of_isTimely (h : Awaits classifier gaps) (htimely : IsTimely gaps now ticks)
    (hdue : classifier.IsDue now) : ∃ tick ∈ ticks, classifier.IsDue tick := by
  obtain ⟨press, hstage, hheld⟩ := hdue
  obtain ⟨gap, hgap, hdown, hsince⟩ := h.begun press hstage
  have hheldAt : ∀ time, Press.IsDue gap.sample.time time → press.isHeld time = true := by
    intro time htime
    rw [Press.isHeld_iff, hsince]
    exact ⟨htime, ((press.isHeld_iff now).1 hheld).2⟩
  rw [Press.isHeld_iff, hsince] at hheld
  rcases htimely.due gap hgap hdown hheld.1 with ⟨last, hlast, htime⟩ | ⟨tick, htick, htime⟩
  . have hfresh := h.fresh press hstage last hlast
    rw [hheldAt _ htime] at hfresh
    contradiction
  . exact ⟨tick, htick, press, hstage, hheldAt _ htime⟩

theorem awaits_handle (h : Awaits classifier gaps) (gap : Gap) :
    Awaits ((classifier.tick gap.sample.time).1.handle gap.sample).1 (gaps ++ [gap]) := by
  have hnotHeld : ∀ press,
      (classifier.tick gap.sample.time).1.recognizer.stage = .pressed press →
        press.isHeld gap.sample.time = false :=
    fun _ hstage => (Classifier.isHeld_of_stage_tick hstage).2
  constructor
  . intro later hlater
    rcases (Gesture.Recognizer.since_of_step hnotHeld hlater).2 with
      ⟨hdown, hsince⟩ | ⟨press, hstage, hsince⟩
    . exact ⟨gap, List.mem_append_right _ List.mem_cons_self, hdown, hsince⟩
    . obtain ⟨begin, hmem, hdown, hbegin⟩ :=
        h.begun press (Classifier.isHeld_of_stage_tick hstage).1
      exact ⟨begin, List.mem_append_left _ hmem, hdown, hsince.trans hbegin⟩
  . intro later hlater last hlast
    rw [List.getLast?_concat] at hlast
    obtain rfl := Option.some.inj hlast
    exact (Gesture.Recognizer.since_of_step hnotHeld hlater).1

structure Agrees (gaps : List Gap) (ticking replayed : Classifier × List Gesture) : Prop where
  classifier : ticking.1 = replayed.1
  gestures : List.Forall₂ IsEarlier ticking.2 replayed.2
  awaits : Awaits replayed.1 gaps

theorem agrees_nil (reference : Reference) :
    Agrees [] (Classifier.new reference, []) (Classifier.new reference, []) :=
  ⟨rfl, .nil, nofun, nofun⟩

theorem ticks_of_agrees {ticking replayed : Classifier × List Gesture}
    (h : Agrees gaps ticking replayed) (htimely : IsTimely gaps now ticks) :
    (ticking.1.performAll (ticks.map .tick)).1 = (replayed.1.tick now).1 ∧
      List.Forall₂ IsEarlier (ticking.2 ++ (ticking.1.performAll (ticks.map .tick)).2)
        (replayed.2 ++ (replayed.1.tick now).2) := by
  rw [h.classifier]
  obtain ⟨hsame, hearlier⟩ :=
    Classifier.performAll_ticks htimely.le (exists_tick_of_isTimely h.awaits htimely)
  exact ⟨hsame, List.rel_append h.gestures hearlier⟩

theorem agrees_concat {ticking replayed : Classifier × List Gesture} {gap : Gap}
    (h : Agrees gaps ticking replayed) (htimely : IsTimely gaps gap.sample.time gap.ticks) :
    Agrees (gaps ++ [gap])
      ((ticking.1.performAll gap.calls).1, ticking.2 ++ (ticking.1.performAll gap.calls).2)
      ((replayed.1.performAll [.tick gap.sample.time, .handle gap.sample]).1,
        replayed.2 ++ (replayed.1.performAll [.tick gap.sample.time, .handle gap.sample]).2) := by
  obtain ⟨hsame, hearlier⟩ := ticks_of_agrees h htimely
  unfold Gap.calls
  rw [Classifier.performAll_append, hsame]
  constructor
  . rfl
  . dsimp only [Classifier.performAll, Classifier.perform]
    rw [List.append_nil, ← List.append_assoc, ← List.append_assoc]
    exact List.rel_append hearlier (List.forall₂_same.2 fun gesture _ => isEarlier_refl gesture)
  . exact awaits_handle h.awaits gap

theorem agrees_performAll (reference : Reference)
    (h : ∀ before gap after, gaps = before ++ gap :: after →
      IsTimely before gap.sample.time gap.ticks) :
    Agrees gaps ((Classifier.new reference).performAll (gaps.flatMap Gap.calls))
      ((Classifier.new reference).performAll
        ((gaps.map Gap.sample).flatMap fun sample => [.tick sample.time, .handle sample])) := by
  induction gaps using List.reverseRecOn with
  | nil => exact agrees_nil reference
  | append_singleton gaps gap ih =>
    have hbefore : ∀ before other after, gaps = before ++ other :: after →
        IsTimely before other.sample.time other.ticks := by
      rintro before other after rfl
      apply h before other (after ++ [gap])
      rw [List.append_assoc, List.cons_append]
    rw [List.flatMap_append, List.map_append, List.flatMap_append, Classifier.performAll_append,
      Classifier.performAll_append, List.flatMap_singleton, List.map_singleton,
      List.flatMap_singleton]
    exact agrees_concat (ih hbefore) (h gaps gap [] rfl)

theorem isEarlier_of_ticksOften (reference : Reference) (h : TicksOften gaps closing) :
    List.Forall₂ IsEarlier
      ((Classifier.new reference).performAll (tickingCalls gaps closing)).2
      (replay reference (gaps.map Gap.sample)) := by
  have hagrees := agrees_performAll reference h.between
  rw [replay_eq_performAll]
  unfold tickingCalls calls
  rw [Classifier.performAll_append, Classifier.performAll_append, List.getLast?_map]
  cases hlast : gaps.getLast? with
  | none =>
    -- Without samples there is no press that a tick could find.
    rw [List.getLast?_eq_none_iff] at hlast
    subst hlast
    rw [Classifier.performAll_ticks_of_not_isDue (by rintro - - ⟨_, hstage, -⟩; contradiction)]
    exact .nil
  | some last =>
    obtain ⟨-, hearlier⟩ := ticks_of_agrees hagrees (h.closing last hlast)
    rw [Option.map_some, Option.map_some, Option.toList_some]
    dsimp only [Classifier.performAll, Classifier.perform]
    rw [List.append_nil]
    exact hearlier

/--
A replay reports the same gestures as any run on the same samples that makes the ticks of the replay
and more, or that ticks often. The gestures are pairwise the same, but that a hold may be reported
earlier and then with a shorter duration.
-/
theorem isEarlier_tickingCalls (reference : Reference) (gaps : List Gap) (closing : List UInt64) :
    (AddsTicks gaps closing →
      List.Forall₂ IsEarlier
        ((Classifier.new reference).performAll (tickingCalls gaps closing)).2
        (replay reference (gaps.map Gap.sample))) ∧
    (TicksOften gaps closing →
      List.Forall₂ IsEarlier
        ((Classifier.new reference).performAll (tickingCalls gaps closing)).2
        (replay reference (gaps.map Gap.sample))) :=
  ⟨fun h => isEarlier_of_ticksOften reference (ticksOften_of_addsTicks h),
    isEarlier_of_ticksOften reference⟩

/--
A press of 700 milliseconds. The replay reports the hold at its end, the other runs report it at the
tick in between.
-/
theorem isEarlier_tickingCalls_held :
    let press : Sample := ⟨.down, 1, 0, 0, 1, 0, .touch⟩
    let adding : List Gap := [⟨[0], press⟩, ⟨[300, 600, 700], press.lifted 700⟩]
    let often : List Gap := [⟨[], press⟩, ⟨[300, 600], press.lifted 700⟩]
    let hold (time : UInt64) : Gesture := ⟨.hold, 1, ⟨0, 0⟩, ⟨0, 0⟩, 0, 0, time, time⟩
    (AddsTicks adding [1200] ∧
      ((Classifier.new .standard).performAll (tickingCalls adding [1200])).2 = [hold 600]) ∧
    (TicksOften often [] ∧
      ((Classifier.new .standard).performAll (tickingCalls often [])).2 = [hold 600]) ∧
    replay .standard [press, press.lifted 700] = [hold 700] ∧
    List.Forall₂ IsEarlier
      ((Classifier.new .standard).performAll (tickingCalls adding [1200])).2 [hold 700] ∧
    List.Forall₂ IsEarlier
      ((Classifier.new .standard).performAll (tickingCalls often [])).2 [hold 700] := by
  intro press adding often hold
  have hreplay : replay .standard [press, press.lifted 700] = [hold 700] := by decide
  have hadds : AddsTicks adding [1200] := by
    constructor
    . rw [List.forall_mem_cons, List.forall_mem_singleton]
      exact ⟨⟨by decide, by simp⟩, ⟨by decide, by simp⟩⟩
    . rintro - ⟨rfl⟩
      refine ⟨by decide, ?_⟩
      rw [List.forall_mem_singleton]
      decide
  have hoften : TicksOften often [] := by
    constructor
    . intro before gap after hsplit
      rcases before with - | ⟨first, - | ⟨second, before⟩⟩
      . obtain ⟨rfl, -⟩ := List.cons.inj hsplit
        exact ⟨nofun, nofun⟩
      . obtain ⟨rfl, hrest⟩ := List.cons.inj hsplit
        obtain ⟨rfl, -⟩ := List.cons.inj hrest
        refine ⟨by simp, ?_⟩
        intro begin hmem hdown hdue
        obtain rfl := List.mem_singleton.1 hmem
        exact Or.inr ⟨600, by decide, by decide⟩
      . have hlength := congrArg List.length hsplit
        simp [often] at hlength
    . rintro last ⟨rfl⟩
      refine ⟨nofun, ?_⟩
      rw [List.forall_mem_cons, List.forall_mem_singleton]
      exact ⟨fun _ _ => Or.inl ⟨_, rfl, by decide⟩, nofun⟩
  refine ⟨⟨hadds, by decide⟩, ⟨hoften, by decide⟩, hreplay, ?_, ?_⟩
  . rw [← hreplay]
    exact (isEarlier_tickingCalls .standard adding [1200]).1 hadds
  . rw [← hreplay]
    exact (isEarlier_tickingCalls .standard often []).2 hoften

end TouchPanel.Trace
