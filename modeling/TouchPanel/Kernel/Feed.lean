import TouchPanel.Kernel.Record
import TouchPanel.System

/-!
This module contains feeds of records: what a device answers, fetch by fetch, when it is read.
-/

namespace TouchPanel.Kernel

inductive FetchFault where
  /-- Nothing has happened since the last fetch. -/
  | wouldBlock
  | numbered (number : Int)
  deriving DecidableEq, Repr

namespace FetchFault

def number? : FetchFault → Option Int
  | wouldBlock => none
  | numbered number => some number

def isWouldBlock (fault : FetchFault) : Bool :=
  fault == wouldBlock || fault.number? == some 11

def isInterrupted (fault : FetchFault) : Bool :=
  fault.number? == some 4

/--
The device is gone: no such device, no such address, or input and output fail.
-/
def isDisconnect (fault : FetchFault) : Bool :=
  fault.number? == some 19 || fault.number? == some 6 || fault.number? == some 5

def isPassing (fault : FetchFault) : Bool :=
  fault.isWouldBlock || fault.isInterrupted

def message : FetchFault → String
  | wouldBlock => "operation would block"
  | numbered number => (SystemFault.numbered number).message

end FetchFault

/--
What the coming fetches answer, and what every fetch after them answers.
-/
structure Feed where
  upcoming : List (Except FetchFault (List Record))
  final : FetchFault

namespace Feed

def batches (size : Nat) (records : List Record) : List (List Record) :=
  match records with
  | [] => []
  | record :: rest =>
    (record :: rest.take (size - 1)) :: batches size (rest.drop (size - 1))
termination_by records.length
decreasing_by simp only [List.length_drop, List.length_cons]; omega

/--
A feed that brings some records, so many in each fetch, and then a fault for ever.
-/
def replay (records : List Record) (size : Nat) (final : FetchFault) : Feed :=
  ⟨(batches (max size 1) records).map .ok, final⟩

def fetch (feed : Feed) : Except FetchFault (List Record) × Feed :=
  match feed.upcoming with
  | [] => (.error feed.final, feed)
  | answer :: upcoming => (answer, { feed with upcoming })

end Feed

end TouchPanel.Kernel
