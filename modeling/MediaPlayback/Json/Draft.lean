import MediaPlayback.Json.Basic

/-! What is read from a text that should be JSON. A text may break off or go wrong anywhere, and
then the draft of its value says where and how. Readers go through a draft in the order of the text
and report the first fault that they come upon, so that a value of the wrong kind in front of broken
text is reported and not the break behind it. Parts that a reader has no use for are passed over,
which takes less than reading them: neither the size of numbers nor the pairing of surrogates nor
the depth of nesting matters there. -/

namespace MediaPlayback

/-- What is wrong with a text. -/
inductive Fault where
  /-- It is not JSON. -/
  | malformed
  /-- It is JSON, but not of the kind that was asked for. -/
  | mismatch
  /-- It ends too early. -/
  | truncated
deriving DecidableEq, Repr

def Fault.name : Fault → String
  | .malformed => "syntax"
  | .mismatch => "data"
  | .truncated => "eof"

/-- What readers find where the text goes wrong inside brackets. -/
structure Cut where
  /-- What one finds that goes on to the next item or field. -/
  read : Fault
  /-- What one finds that passes over the rest. -/
  skip : Fault
  /-- What one finds that expects the closing bracket. -/
  close : Fault
deriving Repr

/-- A cut that is the same for all readers. -/
def Cut.all (f : Fault) : Cut := ⟨f, f, f⟩

/-- How the items or fields between brackets end. -/
inductive Ending where
  | closed
  | cut (c : Cut)
deriving Repr

/-- What is read of a value. -/
inductive Draft where
  /-- The text ends where a value should begin. -/
  | missing
  | null
  | bool (b : Bool)
  | nat (n : Nat)
  | number (literal : List Char)
  | string (s : String)
  /-- A text in quotes that cannot be read; `skip` says why it cannot be passed over either. -/
  | brokenText (read : Fault) (skip : Option Fault)
  /-- Anything else that cannot be read. -/
  | broken (read : Fault) (skip : Option Fault)
  | array (items : List Draft) (ending : Ending)
  /-- The names of fields may be unreadable too. -/
  | object (fields : List (Except Fault String × Draft)) (ending : Ending)
deriving Repr, Inhabited

namespace Ending

/-- The fault for a reader that passes over the rest. -/
def skip? : Ending → Option Fault
  | .closed => none
  | .cut c => some c.skip

/-- The fault for a reader that goes on to the next item or field, and finds none. -/
def finish : Ending → Except Fault Unit
  | .closed => .ok ()
  | .cut c => .error c.read

/-- The fault for a reader that expects the closing bracket here, where `more` says whether there
are further items. -/
def close (more : Bool) : Ending → Except Fault Unit
  | .closed => if more then .error .malformed else .ok ()
  | .cut c => if more then .error .malformed else .error c.close

end Ending

namespace Draft

mutual

/-- The fault that keeps a reader from passing over the value. -/
def skip? : Draft → Option Fault
  | .missing => some .truncated
  | .brokenText _ skip | .broken _ skip => skip
  | .array items ending => (skipItems? items).or ending.skip?
  | .object fields ending => (skipFields? fields).or ending.skip?
  | _ => none

def skipItems? : List Draft → Option Fault
  | [] => none
  | item :: items => item.skip?.or (skipItems? items)

def skipFields? : List (Except Fault String × Draft) → Option Fault
  | [] => none
  | (_, value) :: fields => value.skip?.or (skipFields? fields)

end

mutual

/-- Reads the whole value, with at most `depth` brackets inside each other. -/
def settle (depth : Nat) : Draft → Except Fault Json
  | .missing => .error .truncated
  | .null => .ok .null
  | .bool b => .ok (.bool b)
  | .nat n => .ok (.nat n)
  | .number literal => .ok (.number literal)
  | .string s => .ok (.string s)
  | .brokenText read _ | .broken read _ => .error read
  | .array items ending => do
    if depth = 0 then throw .malformed
    let items ← settleItems (depth - 1) items
    ending.finish
    return .array items
  | .object fields ending => do
    if depth = 0 then throw .malformed
    let fields ← settleFields (depth - 1) fields
    ending.finish
    return .object fields

def settleItems (depth : Nat) : List Draft → Except Fault (List Json)
  | [] => .ok []
  | item :: items => do
    let item ← item.settle depth
    let items ← settleItems depth items
    return item :: items

def settleFields (depth : Nat) :
    List (Except Fault String × Draft) → Except Fault (List (String × Json))
  | [] => .ok []
  | (name, value) :: fields => do
    let name ← name
    let value ← value.settle depth
    let fields ← settleFields depth fields
    return (name, value) :: fields

end

mutual

/-- The draft of a text that holds a value. -/
def ofJson : Json → Draft
  | .null => .null
  | .bool b => .bool b
  | .nat n => .nat n
  | .number literal => .number literal
  | .string s => .string s
  | .array items => .array (ofItems items) .closed
  | .object fields => .object (ofFields fields) .closed

def ofItems : List Json → List Draft
  | [] => []
  | item :: items => ofJson item :: ofItems items

def ofFields : List (String × Json) → List (Except Fault String × Draft)
  | [] => []
  | (name, value) :: fields => (.ok name, ofJson value) :: ofFields fields

end

/-- How many brackets may stand inside each other. -/
def maxDepth : Nat := 127

end Draft
end MediaPlayback
