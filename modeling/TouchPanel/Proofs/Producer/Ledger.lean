import TouchPanel.Proofs.Inbox.Ledger
import TouchPanel.Proofs.Producer.Delivery

/-!
This module contains the entries that the producers leave in the ledger of the inbox that they
deliver to: those of a step of a worker (`Producer.posts_work`) and those of a pull
(`Producer.posts_pull`). A worker that is stopped finds the inbox closed and leaves none.
-/

namespace TouchPanel

def Inbox.recordOf (inbox : Inbox) : Option Event → Ledger
  | some event => inbox.record event
  | none => .empty

namespace Reader

def offered? (reader : Reader) (now : UInt64) : Option Event :=
  if reader.hasEnded then
    none
  else
    match reader.mouseEvent, reader.transitions with
    | some event, _ => some (.mouse event)
    | none, transition :: _ => some (.pointer (reader.calibration.sample transition now))
    | none, [] => none

theorem posts_step {reader : Reader} (hwaiting : reader.waiting = []) (now : UInt64)
    {inbox : Inbox} (hstill : (reader.step now inbox).1.waiting = []) :
    inbox.Posts (reader.step now inbox).2.1 (inbox.recordOf (reader.offered? now)) := by
  unfold step at hstill ⊢
  unfold offered?
  split
  . exact Inbox.posts_refl inbox
  . next hgoing =>
    rw [if_neg hgoing] at hstill
    split
    . simp_all
    . next hidle =>
      rw [if_neg hidle] at hstill
      cases hmouse : reader.mouseEvent with
      | some event =>
        rw [hmouse] at hstill
        dsimp only at hstill ⊢
        rw [waiting_settle] at hstill
        exact Inbox.posts_push hstill
      | none =>
        rw [hmouse] at hstill
        cases htransitions : reader.transitions with
        | cons transition transitions =>
          rw [htransitions] at hstill
          dsimp only at hstill ⊢
          rw [waiting_settle] at hstill
          exact Inbox.posts_push hstill
        | nil =>
          cases reader.records with
          | cons record records => exact Inbox.posts_refl inbox
          | nil =>
            dsimp only
            split
            . exact Inbox.posts_refl inbox
            . split <;> exact Inbox.posts_refl inbox

end Reader

namespace Generator

def offered? (generator : Generator) (now : UInt64) (script : Script) : Option Event :=
  match generator.stage, script with
  | .forwarding _, event :: _ => some (event.scripted now)
  | .delivering time ((phase, spot) :: _) _, _ =>
    some (.pointer (Sample.clamped phase spot.id spot.x spot.y time .mock))
  | _, _ => none

theorem posts_step {generator : Generator} (hwaiting : generator.waiting = []) (now : UInt64)
    (script : Script) {inbox : Inbox} (hstill : (generator.step now script inbox).1.waiting = []) :
    inbox.Posts (generator.step now script inbox).2.2
      (inbox.recordOf (generator.offered? now script)) := by
  unfold step at hstill ⊢
  unfold offered?
  split
  . simp_all
  . next hidle =>
    rw [if_neg hidle] at hstill
    cases hstage : generator.stage with
    | ended => exact Inbox.posts_refl inbox
    | sleeping since span due =>
      dsimp only
      split
      . exact Inbox.posts_refl inbox
      . split <;> exact Inbox.posts_refl inbox
    | forwarding due =>
      rw [hstage] at hstill
      cases script with
      | cons event script =>
        dsimp only at hstill ⊢
        rw [waiting_settle] at hstill
        exact Inbox.posts_push hstill
      | nil => cases due <;> exact Inbox.posts_refl inbox
    | delivering time changes course =>
      rw [hstage] at hstill
      cases changes with
      | nil => exact Inbox.posts_refl inbox
      | cons change changes =>
        obtain ⟨phase, spot⟩ := change
        dsimp only at hstill ⊢
        rw [waiting_settle] at hstill
        exact Inbox.posts_push hstill

end Generator

namespace Relay

def ledger (reference : Reference) (now : UInt64) (isLeftHeld : Bool) (inbox : Inbox) :
    List Host.Event → Ledger
  | [] => .empty
  | event :: rest =>
    if inbox.hasRoom 2 then
      match convert reference now isLeftHeld event with
      | (isLeftHeld, none) => ledger reference now isLeftHeld inbox rest
      | (isLeftHeld, some event) =>
        match inbox.push event with
        | (next, .done) => inbox.record event ++ ledger reference now isLeftHeld next rest
        | _ => inbox.record event
    else
      .empty

theorem posts_pullAll (reference : Reference) (now : UInt64) (isLeftHeld : Bool) (inbox : Inbox)
    (events : List Host.Event) :
    inbox.Posts (pullAll reference now isLeftHeld inbox events).inbox
      (ledger reference now isLeftHeld inbox events) := by
  induction events generalizing isLeftHeld inbox with
  | nil => exact Inbox.posts_refl inbox
  | cons event events ih =>
    unfold pullAll ledger
    split
    . next hroom =>
      cases hconvert : convert reference now isLeftHeld event with
      | mk isHeld converted =>
        cases converted with
        | none => apply ih
        | some event =>
          dsimp only
          have hrest : (inbox.push event).2.rest = [] := Inbox.rest_push_of_hasRoom hroom event
          have hposts := Inbox.posts_push hrest
          generalize inbox.push event = pushed at hrest hposts
          obtain ⟨next, delivery⟩ := pushed
          cases delivery with
          | done => exact Inbox.posts_trans hposts (ih isHeld next)
          | closed => exact hposts
          | waiting => exact hposts
    . exact Inbox.posts_refl inbox

def pullLedger (relay : Relay) (now : UInt64) (inbox : Inbox) : Ledger :=
  match relay.isAttached, relay.pump with
  | true, some pump => ledger relay.reference now relay.isLeftHeld inbox pump.events
  | _, _ => .empty

theorem posts_pull (relay : Relay) (now : UInt64) (inbox : Inbox) :
    inbox.Posts (relay.pull now inbox).2 (relay.pullLedger now inbox) := by
  unfold pull pullLedger
  cases relay.isAttached <;> cases relay.pump
  . exact Inbox.posts_refl inbox
  . exact Inbox.posts_refl inbox
  . exact Inbox.posts_refl inbox
  . apply posts_pullAll

end Relay

namespace Panel

def offered? (panel : Panel) (now : UInt64) : Option Event :=
  panel.worker.bind (·.offered? now)

theorem posts_work {panel : Panel} (hwaiting : panel.waiting = []) (now : UInt64) {inbox : Inbox}
    (hstill : (panel.work now inbox).1.waiting = []) :
    inbox.Posts (panel.work now inbox).2 (inbox.recordOf (panel.offered? now)) := by
  unfold work at hstill ⊢
  unfold offered?
  cases hworker : panel.worker with
  | none => exact Inbox.posts_refl inbox
  | some worker =>
    rw [waiting_of_worker hworker] at hwaiting
    rw [hworker] at hstill
    exact Reader.posts_step hwaiting now hstill

end Panel

namespace Synthesizer

def offered? (synthesizer : Synthesizer) (now : UInt64) : Option Event :=
  synthesizer.worker.bind (·.offered? now synthesizer.script)

theorem posts_work {synthesizer : Synthesizer} (hwaiting : synthesizer.waiting = []) (now : UInt64)
    {inbox : Inbox} (hstill : (synthesizer.work now inbox).1.waiting = []) :
    inbox.Posts (synthesizer.work now inbox).2 (inbox.recordOf (synthesizer.offered? now)) := by
  unfold work at hstill ⊢
  unfold offered?
  cases hworker : synthesizer.worker with
  | none => exact Inbox.posts_refl inbox
  | some worker =>
    rw [waiting_of_worker hworker] at hwaiting
    rw [hworker] at hstill
    exact Generator.posts_step hwaiting now synthesizer.script hstill

end Synthesizer

namespace Producer

def offered? (producer : Producer) (now : UInt64) : Option Event :=
  match producer with
  | host _ => none
  | panel p => p.offered? now
  | synthetic synthesizer => synthesizer.offered? now

def pullLedger (producer : Producer) (now : UInt64) (inbox : Inbox) : Ledger :=
  match producer with
  | host relay => relay.pullLedger now inbox
  | _ => .empty

theorem posts_work {producer : Producer} (hwaiting : producer.waiting = []) (now : UInt64)
    {inbox : Inbox} (hstill : (producer.work now inbox).1.waiting = []) :
    inbox.Posts (producer.work now inbox).2 (inbox.recordOf (producer.offered? now)) := by
  cases producer with
  | host => exact Inbox.posts_refl inbox
  | panel => exact Panel.posts_work hwaiting now hstill
  | synthetic => exact Synthesizer.posts_work hwaiting now hstill

theorem posts_pull (producer : Producer) (now : UInt64) (inbox : Inbox) :
    inbox.Posts (producer.pull now inbox).2 (producer.pullLedger now inbox) := by
  cases producer with
  | host relay => exact Relay.posts_pull relay now inbox
  | panel => exact Inbox.posts_refl inbox
  | synthetic => exact Inbox.posts_refl inbox

end Producer

end TouchPanel
