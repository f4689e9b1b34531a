import TouchPanel.Kernel.Code
import TouchPanel.System
import TouchPanel.Text.Integer

/-!
This module contains the ways in which the operations of the library fail, each with its causes, and
the wording of each (`Failure.message`).
-/

namespace TouchPanel

inductive SettingsFault where
  | emptyReference (width height : UInt32)
  | noDeviceNamed
  | emptyInterval
  | emptyDuration
  /-- The synthetic producer checks its two times itself when it is prepared. -/
  | emptyTimes
  | unknownPattern (name : String)
  | noPump
  | mismatch (configured provided : String)
  | unreadable (path : String) (cause : SystemFault)
  | malformed
  deriving DecidableEq, Repr

def SettingsFault.message : SettingsFault → String
  | .emptyReference width height => s!"reference size must be non-zero, got {width}x{height}"
  | .noDeviceNamed => "raw-device source needs device_path or auto_detect_device"
  | .emptyInterval => "synthetic frame_interval_ms must be > 0"
  | .emptyDuration => "synthetic duration_ms must be > 0"
  | .emptyTimes => "synthetic frame_interval_ms and duration_ms must be > 0"
  | .unknownPattern name => s!"unknown synthetic pattern `{name}` (use tap|swipe|pinch|circle)"
  | .noPump => "native source needs a host event pump"
  | .mismatch configured provided =>
    s!"configured source `{configured}` does not match provided `{provided}`"
  | .unreadable path cause => s!"failed to read {path}: {cause.message}"
  | .malformed => "failed to parse input config"

inductive SurveyFault where
  | noAbsoluteAxes
  | noPosition
  | noRange (axis : UInt16)
  | emptyRange (axis : UInt16) (least greatest : Int32)
  deriving DecidableEq, Repr

def SurveyFault.message : SurveyFault → String
  | .noAbsoluteAxes => "no EV_ABS support"
  | .noPosition => "missing X/Y absolute axes"
  | .noRange axis => s!"no range reported for {Kernel.Axis.label axis}"
  | .emptyRange axis least greatest =>
    s!"degenerate {Kernel.Axis.label axis} range [{least}..{greatest}]"

inductive RowFault where
  | tooFewColumns
  | number (column text : String) (cause : Text.NumberFault)
  | phase (text : String)
  | origin (text : String)
  | gesture (text : String)
  deriving DecidableEq, Repr

def RowFault.message : RowFault → String
  | .tooFewColumns => "expected at least 6 columns (ms,kind,touch_id,x,y)"
  | .number column text cause => s!"invalid {column} '{text}': {cause.message}"
  | .phase text => s!"invalid kind '{text}'"
  | .origin text => s!"invalid source '{text}'"
  | .gesture text => s!"invalid gesture kind '{text}'"

inductive Failure where
  | settings (fault : SettingsFault)
  | unknownProducer (name : String)
  | deviceOpen (path : String) (cause : SystemFault)
  | notTouch (fault : SurveyFault)
  | noDevice (root : String)
  | disconnected
  | notPrepared
  | alreadyRunning
  | closed
  | row (line : Nat) (fault : RowFault)
  | system (cause : SystemFault)
  deriving DecidableEq, Repr

namespace Failure

def message : Failure → String
  | settings fault => s!"invalid input configuration: {fault.message}"
  | unknownProducer name => s!"unknown input source `{name}` (use native|raw-device|synthetic)"
  | deviceOpen path cause => s!"failed to open {path}: {cause.message}"
  | notTouch fault => s!"not a touch device: {fault.message}"
  | noDevice root => s!"no multi-touch device found under {root}"
  | disconnected => "input device disconnected"
  | notPrepared => "input source used before initialize"
  | alreadyRunning => "input source already running"
  | closed => "event sink closed"
  | row line fault => s!"trace line {line}: {fault.message}"
  | system cause => cause.message

/--
The failure that this one reports on, if it is one in its own right.
-/
def cause? : Failure → Option String
  | deviceOpen _ cause => some cause.message
  | _ => none

end Failure

end TouchPanel
