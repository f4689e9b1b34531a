import TouchPanel.Gesture.Classifier
import TouchPanel.Session.Basic
import TouchPanel.Trace.Journal

/-!
This module contains the watching of a session: its events are classified as they come, and kept in
a journal together with the gestures that they make.

The session is looked at once in every millisecond. Its worker takes its steps in between.
-/

namespace TouchPanel

structure Watch where
  session : Session
  classifier : Gesture.Classifier
  journal : Trace.Journal
  gestures : List Gesture

namespace Watch

def new (session : Session) : Watch :=
  { session, classifier := .new session.settings.reference, journal := .empty, gestures := [] }

def report (watch : Watch) (result : Gesture.Classifier × List Gesture) : Watch :=
  { watch with
    classifier := result.1
    journal := watch.journal.addGestures result.2
    gestures := watch.gestures ++ result.2 }

def hear (watch : Watch) (event : Event) : Watch :=
  match event.sample? with
  | none => watch
  | some sample =>
    { watch with journal := watch.journal.addSamples [sample] }.report
      (watch.classifier.handle sample)

def look (watch : Watch) : Watch :=
  let (events, session) := watch.session.drain
  let watch := events.foldl hear { watch with session }
  watch.report (watch.classifier.tick session.now)

/--
How many steps a worker takes in a millisecond.
-/
def pace : Nat := 64

def rest (watch : Watch) : Watch :=
  let session := watch.session.elapse 1
  { watch with session := (List.range pace).foldl (fun session _ => session.work) session }

def watchFor (watch : Watch) : Nat → Watch
  | 0 => watch
  | span + 1 => if watch.session.isRunning then watch.look.rest.watchFor span else watch

def close (watch : Watch) : Watch :=
  let (events, session) := watch.session.stop.drain
  { watch with
    session
    journal := watch.journal.addSamples (events.filterMap Event.sample?) }

end Watch

def Gesture.describe (gesture : Gesture) : String :=
  s!"gesture {gesture.kind.label} at ({gesture.point.x}, {gesture.point.y}) " ++
    s!"after {gesture.duration} ms\n"

end TouchPanel
