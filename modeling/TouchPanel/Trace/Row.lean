import TouchPanel.Failure
import TouchPanel.Gesture.Basic
import TouchPanel.Pointer.Basic
import TouchPanel.Text.Decimal
import TouchPanel.Text.Lines

/-!
This module contains the rows of a trace: samples and gestures in columns between commas, and the
reading of rows of samples.

A line that is blank, a comment, the header of the samples, or a row of something else is no row of
samples. Reading passes over it.
-/

namespace TouchPanel.Trace

def line (columns : List String) : String := ",".intercalate columns ++ "\n"

def sampleTag : String := "pointer_trace"

def sampleHeader : String := "pointer_trace,ms,kind,touch_id,x,y,pressure,source"

def gestureHeader : String := "gesture,ms,kind,touch_id,x,y,start_x,start_y,dx,dy,duration_ms"

/--
The columns of a sample: coordinates have six places and the pressure has four.
-/
def sampleColumns (sample : Sample) : List String :=
  [sampleTag, toString sample.time.toNat, sample.phase.label, toString sample.id.toNat,
    String.ofList (Text.fixed 6 sample.x), String.ofList (Text.fixed 6 sample.y),
    String.ofList (Text.fixed 4 sample.pressure), sample.origin.label]

def gestureColumns (gesture : Gesture) : List String :=
  ["gesture", toString gesture.time.toNat, gesture.kind.label, toString gesture.id.toNat,
    toString gesture.point.x, toString gesture.point.y, toString gesture.start.x,
    toString gesture.start.y, toString gesture.dx, toString gesture.dy,
    toString gesture.duration.toNat]

def sampleLine (sample : Sample) : String := line (sampleColumns sample)

def gestureLine (gesture : Gesture) : String := line (gestureColumns gesture)

def readColumn (name : String) (read : List Char → Except Text.NumberFault α)
    (column : List Char) : Except RowFault α :=
  match read (Text.trim column) with
  | .ok a => .ok a
  | .error cause => .error (.number name (String.ofList (Text.trim column)) cause)

/--
Reads the columns of a sample after its tag. Pressure and origin may be missing: the pressure is
full then, and the origin is touch.
-/
def readColumns : List (List Char) → Except RowFault Sample
  | ms :: kind :: touchId :: x :: y :: more => do
    let time ← readColumn "ms" (Text.readNat (UInt64.size - 1)) ms
    let some phase := Phase.ofLabel? (String.ofList kind)
      | throw (.phase (String.ofList kind))
    let id ← readColumn "touch_id" (Text.readNat (UInt32.size - 1)) touchId
    let x ← readColumn "x" Text.readDecimal x
    let y ← readColumn "y" Text.readDecimal y
    let pressure ←
      match more with
      | [] => pure 1
      | pressure :: _ => readColumn "pressure" Text.readDecimal pressure
    let origin ←
      match more with
      | _ :: origin :: _ =>
        match Origin.ofLabel? (String.ofList origin) with
        | some origin => pure origin
        | none => throw (.origin (String.ofList origin))
      | _ => pure .touch
    return (Sample.clamped phase (UInt32.ofNat id) x y (UInt64.ofNat time) origin).withPressure
      pressure
  | _ => throw .tooFewColumns

def readSample? (line : String) : Option (Except RowFault Sample) :=
  let text := Text.trim line.toList
  if text.isEmpty || text.head? == some '#' || String.ofList text == sampleHeader then
    none
  else
    match Text.fields ',' text with
    | tag :: columns =>
      if String.ofList (Text.trim tag) == sampleTag then some (readColumns columns) else none
    | [] => none

def readKind? (line : String) : Option (Except RowFault Gesture.Kind) :=
  let word := Text.strip line
  if word.isEmpty || word.startsWith "#" then
    none
  else
    match Gesture.Kind.ofLabel? word with
    | some kind => some (.ok kind)
    | none => some (.error (.gesture word))

/--
Reads the lines of a text that count, from the line with a number on. The first line that cannot be
read ends the reading.
-/
def readLines (read? : String → Option (Except RowFault α)) :
    Nat → List (Option String) → Except Failure (List α)
  | _, [] => .ok []
  | _, none :: _ => .error (.system .notText)
  | number, some line :: lines =>
    match read? line with
    | none => readLines read? (number + 1) lines
    | some (.error fault) => .error (.row number fault)
    | some (.ok a) => (readLines read? (number + 1) lines).map (a :: ·)

def readSamples (text : String) : Except Failure (List Sample) :=
  readLines readSample? 1 ((Text.linesOf text).map some)

def readSampleBytes (bytes : List UInt8) : Except Failure (List Sample) :=
  readLines readSample? 1 (Text.linesOfBytes bytes)

def readKinds (text : String) : Except Failure (List Gesture.Kind) :=
  readLines readKind? 1 ((Text.linesOf text).map some)

def readKindBytes (bytes : List UInt8) : Except Failure (List Gesture.Kind) :=
  readLines readKind? 1 (Text.linesOfBytes bytes)

end TouchPanel.Trace
