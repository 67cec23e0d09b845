import MediaPlayback.Json.Notification
import MediaPlayback.Log.Timestamp

/-! The JSON form of log entries with their time. -/

namespace MediaPlayback

open Draft (readString readOptional readFields readItem once required)

/-- A log entry and the moment when it was made. -/
structure LogEntry where
  timestamp : Timestamp
  record : LogRecord
deriving DecidableEq, Repr

/-- Sets a field of a log entry: the last value of a name counts. -/
def setField (fields : List (String × String)) (name value : String) : List (String × String) :=
  fields.filter (·.1 ≠ name) ++ [(name, value)]

/-- The JSON form of an entry; its time may be left out. -/
def LogRecord.toJson (r : LogRecord) (timestamp : Option Timestamp) : Json :=
  .object [("level", .string r.level.name), ("timestamp", .ofText? (timestamp.map Timestamp.text)),
    ("target", .string r.target), ("message", .string r.message),
    ("fields", .object (r.fields.map fun (name, value) => (name, .string value))),
    ("span_id", .ofText? r.span)]

namespace LogEntry

def toJson (e : LogEntry) : Json := e.record.toJson (some e.timestamp)

def readTimestamp (d : Draft) : Except Fault Timestamp := do
  required (Timestamp.ofText? (← d.readString))

/-- Reads the named texts of an object. -/
def readTexts : Draft → Except Fault (List (String × String))
  | .object fields ending =>
    readFields (fun texts name => some fun d => do return setField texts name (← d.readString)) []
      fields ending
  | d => .error d.wrongKind

/-- An entry of which some fields were read. -/
structure Partial where
  level : Option LogLevel := none
  timestamp : Option Timestamp := none
  target : Option String := none
  message : Option String := none
  fields : Option (List (String × String)) := none
  span : Option (Option String) := none

def Partial.field (p : Partial) (name : String) : Option (Draft → Except Fault Partial) :=
  if name = "level" then some fun d => do
    return { p with level := some (← once p.level LogLevel.ofDraft d) }
  else if name = "timestamp" then some fun d => do
    return { p with timestamp := some (← once p.timestamp readTimestamp d) }
  else if name = "target" then some fun d => do
    return { p with target := some (← once p.target readString d) }
  else if name = "message" then some fun d => do
    return { p with message := some (← once p.message readString d) }
  else if name = "fields" then some fun d => do
    return { p with fields := some (← once p.fields readTexts d) }
  else if name = "span_id" then some fun d => do
    return { p with span := some (← once p.span (readOptional readString) d) }
  else none

def ofDraft : Draft → Except Fault LogEntry
  | .object fields ending => do
    let p ← readFields Partial.field {} fields ending
    let level ← required p.level
    let timestamp ← required p.timestamp
    let target ← required p.target
    let message ← required p.message
    let fields ← required p.fields
    return ⟨timestamp, { level, target, message, fields, span := p.span.getD none }⟩
  | .array items ending => do
    let (level, items) ← readItem LogLevel.ofDraft ending items
    let (timestamp, items) ← readItem readTimestamp ending items
    let (target, items) ← readItem readString ending items
    let (message, items) ← readItem readString ending items
    let (fields, items) ← readItem readTexts ending items
    let (span, items) ← readItem (readOptional readString) ending items
    ending.close (!items.isEmpty)
    return ⟨timestamp, { level, target, message, fields, span }⟩
  | d => .error d.wrongKind

end LogEntry
end MediaPlayback
