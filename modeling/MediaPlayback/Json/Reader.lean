import MediaPlayback.Json.Draft

/-! Readers of drafts: of plain values, of one word out of several, and of records. A record is
written as an object, whose fields may come in any order, or as the array of its fields. A word may
also be written as an object that has it as its only name. -/

namespace MediaPlayback

namespace Draft

/-- The fault of a value that is not of the kind that was asked for. -/
def wrongKind : Draft → Fault
  | .missing => .truncated
  | .brokenText read _ | .broken read _ => read
  | _ => .mismatch

def readString : Draft → Except Fault String
  | .string s => .ok s
  | d => .error d.wrongKind

def readBool : Draft → Except Fault Bool
  | .bool b => .ok b
  | d => .error d.wrongKind

/-- Reads a whole number below a bound. -/
def readNat (bound : Nat) : Draft → Except Fault Nat
  | .nat n => if n < bound then .ok n else .error .mismatch
  | d => .error d.wrongKind

def readNull : Draft → Except Fault Unit
  | .null => .ok ()
  | d => .error d.wrongKind

/-- Reads a value that may be null. -/
def readOptional {α : Type} (read : Draft → Except Fault α) : Draft → Except Fault (Option α)
  | .null => .ok none
  | d => do return some (← read d)

/-- A word with what is written behind it. -/
structure Tagged where
  word : String
  payload : Option Draft := none
  /-- Whether the object ends behind the word's value. -/
  close : Except Fault Unit := .ok ()

/-- Reads a word, plain or as the only name in an object. -/
def readTagged : Draft → Except Fault Tagged
  | .string word => .ok { word }
  | .brokenText read _ => .error read
  | .missing => .error .truncated
  | .object ((name, payload) :: more) ending => do
    let word ← name
    return { word, payload := some payload, close := ending.close (!more.isEmpty) }
  | .object [] .closed => .error .malformed
  | .object [] (.cut c) => .error c.read
  | _ => .error .malformed

/-- Nothing may be written behind the word but null. -/
def Tagged.plain (t : Tagged) : Except Fault Unit := do
  match t.payload with
  | none => return ()
  | some payload =>
    payload.readNull
    t.close

/-- Reads one of the words that `ofWord?` knows. -/
def readWord {α : Type} (ofWord? : String → Option α) (d : Draft) : Except Fault α := do
  let t ← d.readTagged
  match ofWord? t.word with
  | none => throw .mismatch
  | some a =>
    t.plain
    return a

/-- Reads the fields of a record. `field` says for the names that it knows how the state of the
record changes; other fields are passed over. -/
def readFields {σ : Type} (field : σ → String → Option (Draft → Except Fault σ)) :
    σ → List (Except Fault String × Draft) → Ending → Except Fault σ
  | s, [], ending => do
    ending.finish
    return s
  | s, (name, value) :: rest, ending => do
    let name ← name
    match field s name with
    | some read => readFields field (← read value) rest ending
    | none =>
      match value.skip? with
      | some f => throw f
      | none => readFields field s rest ending

/-- Reads a field that may occur only once. -/
def once {α : Type} (present : Option α) (read : Draft → Except Fault α) (d : Draft) :
    Except Fault α :=
  if present.isSome then .error .mismatch else read d

/-- The value of a field that must occur. -/
def required {α : Type} : Option α → Except Fault α
  | some a => .ok a
  | none => .error .mismatch

/-- The next item of a record that is written as an array. -/
def nextItem (ending : Ending) : List Draft → Except Fault (Draft × List Draft)
  | item :: items => .ok (item, items)
  | [] => do
    ending.finish
    throw .mismatch

/-- Reads one item of a record that is written as an array, and gives those behind it. -/
def readItem {α : Type} (read : Draft → Except Fault α) (ending : Ending) (items : List Draft) :
    Except Fault (α × List Draft) := do
  let (item, items) ← nextItem ending items
  return (← read item, items)

end Draft

namespace Json

def string? : Json → Option String
  | .string s => some s
  | _ => none

def bool? : Json → Option Bool
  | .bool b => some b
  | _ => none

def nat? : Json → Option Nat
  | .nat n => some n
  | _ => none

/-- A value that may be null. -/
def optional? {α : Type} (read? : Json → Option α) : Json → Option (Option α)
  | .null => some none
  | j => (read? j).map some

/-- One of the words that `ofWord?` knows, plain or as the only name in an object, with nothing
behind it. -/
def word? {α : Type} (ofWord? : String → Option α) : Json → Option α
  | .string word => ofWord? word
  | .object [(word, .null)] | .object [(word, .object [])] => ofWord? word
  | _ => none

def valuesOf (name : String) (fields : List (String × Json)) : List Json :=
  fields.filterMap fun (n, value) => if n = name then some value else none

/-- The value of a field that must occur, and only once. -/
def required? {α : Type} (name : String) (read? : Json → Option α) (fields : List (String × Json)) :
    Option α :=
  match valuesOf name fields with
  | [value] => read? value
  | _ => none

/-- The value of a field that may be absent or null, and may occur only once. -/
def absentOr? {α : Type} (name : String) (read? : Json → Option α)
    (fields : List (String × Json)) : Option (Option α) :=
  match valuesOf name fields with
  | [] => some none
  | [value] => value.optional? read?
  | _ => none

end Json
end MediaPlayback
