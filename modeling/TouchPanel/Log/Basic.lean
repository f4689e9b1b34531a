import TouchPanel.Text.Blank
import TouchPanel.Text.Integer

/-!
This module contains the entries of a log and their two forms: a line for people and a JSON object,
in which text stands in quotes.
-/

namespace TouchPanel

namespace Text

def escape (c : Char) : String :=
  match c with
  | '"' => "\\\""
  | '\\' => "\\\\"
  | '\x08' => "\\b"
  | '\t' => "\\t"
  | '\n' => "\\n"
  | '\x0c' => "\\f"
  | '\r' => "\\r"
  | c => if c.toNat < 32 then "\\u" ++ hexadecimal 4 c.toNat else c.toString

def quoted (text : String) : String :=
  "\"" ++ String.join (text.toList.map escape) ++ "\""

end Text

inductive LogLevel where
  | error
  | warn
  | info
  | debug
  | trace
  deriving DecidableEq, Repr

namespace LogLevel

def label : LogLevel → String
  | error => "ERROR"
  | warn => "WARN"
  | info => "INFO"
  | debug => "DEBUG"
  | trace => "TRACE"

def name (level : LogLevel) : String := Text.fold level.label

def all : List LogLevel := [error, warn, info, debug, trace]

def rank : LogLevel → Nat
  | error => 1
  | warn => 2
  | info => 3
  | debug => 4
  | trace => 5

/--
Entries of the level go to the standard output, and not to the standard error.
-/
def isQuiet : LogLevel → Bool
  | error => false
  | warn => false
  | _ => true

end LogLevel

/--
The levels of which entries are kept: all up to a level, or none.
-/
structure LogFilter where
  limit : Option LogLevel
  deriving DecidableEq, Repr

namespace LogFilter

def ofName? (word : String) : Option LogFilter :=
  let word := Text.fold word
  if word == "off" then some ⟨none⟩
  else (LogLevel.all.find? fun level => level.name == word).map fun level => ⟨some level⟩

def keeps (filter : LogFilter) (level : LogLevel) : Bool :=
  filter.limit.any fun limit => level.rank ≤ limit.rank

end LogFilter

structure LogEntry where
  level : LogLevel
  target : String
  message : String
  deriving DecidableEq, Repr

namespace LogEntry

def line (entry : LogEntry) : String := s!"[{entry.level.label}] {entry.message}\n"

def json (entry : LogEntry) (time : UInt64) : String :=
  "\x7b\"level\":" ++ Text.quoted entry.level.name ++
    ",\"msg\":" ++ Text.quoted entry.message ++
    ",\"target\":" ++ Text.quoted entry.target ++
    ",\"ts_ms\":" ++ toString time.toNat ++ "\x7d\n"

end LogEntry

end TouchPanel
