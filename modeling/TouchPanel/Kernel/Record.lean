import TouchPanel.Kernel.Code
import TouchPanel.Text.Integer

/-!
This module contains the records in which the kernel reports the changes of a device.
-/

namespace TouchPanel.Kernel

/--
One change: an event type, a code within that type, and a value. Times are in microseconds.
-/
structure Record where
  time : UInt64
  kind : UInt16
  code : UInt16
  value : Int32
  deriving DecidableEq, Repr

namespace Record

def sync (time : UInt64) : Record :=
  { time, kind := EventType.sync, code := Sync.report, value := 0 }

def isReport (record : Record) : Bool :=
  record.kind == EventType.sync && record.code == Sync.report

def describe (record : Record) : String :=
  s!"{EventType.label record.kind} code=0x{Text.hexadecimal 3 record.code.toNat} " ++
    s!"value={record.value}"

end Record

end TouchPanel.Kernel
