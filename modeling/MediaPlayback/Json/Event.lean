import MediaPlayback.Json.Notification

/-! The JSON form of events. An event is an object of a `type` and a `payload`, and the payload is an
object that names the kind of event beside the fields of that kind. The fields of either may come in
any order; the payload cannot be understood before its type is known, and is kept until then. -/

namespace MediaPlayback

namespace PlaybackEvent

/-- The index or number of milliseconds, if it fits. -/
def word64? (j : Json) : Option UInt64 := j.nat?.map UInt64.ofNat

def ofIndex? (index : Option UInt64) : Json := .ofNat? (index.map UInt64.toNat)

/-- The kinds of playback events, in the order in which they are numbered. -/
def kinds : List String := ["StateChanged", "TrackChanged", "PositionChanged", "FocusDenied", "Error"]

def toJson : PlaybackEvent → Json
  | .stateChanged status path =>
    .object [("event", .string "StateChanged"), ("status", .string status.name),
      ("path", .ofText? path)]
  | .trackChanged path title index =>
    .object [("event", .string "TrackChanged"), ("path", .ofText? path), ("title", .ofText? title),
      ("index", ofIndex? index)]
  | .positionChanged path position duration =>
    .object [("event", .string "PositionChanged"), ("path", .string path),
      ("position_ms", .nat position.toNat), ("duration_ms", .nat duration.toNat)]
  | .focusDenied path => .object [("event", .string "FocusDenied"), ("path", .string path)]
  | .error path message recoverable =>
    .object [("event", .string "Error"), ("path", .ofText? path), ("message", .string message),
      ("recoverable", .bool recoverable)]

def ofFields? (kind : String) (fields : List (String × Json)) : Option PlaybackEvent :=
  match kind with
  | "StateChanged" => do
    return .stateChanged (← Json.required? "status" (Json.word? PlaybackState.ofName?) fields)
      (← Json.absentOr? "path" Json.string? fields)
  | "TrackChanged" => do
    return .trackChanged (← Json.absentOr? "path" Json.string? fields)
      (← Json.absentOr? "title" Json.string? fields) (← Json.absentOr? "index" word64? fields)
  | "PositionChanged" => do
    return .positionChanged (← Json.required? "path" Json.string? fields)
      (← Json.required? "position_ms" word64? fields) (← Json.required? "duration_ms" word64? fields)
  | "FocusDenied" => do return .focusDenied (← Json.required? "path" Json.string? fields)
  | "Error" => do
    return .error (← Json.absentOr? "path" Json.string? fields)
      (← Json.required? "message" Json.string? fields)
      (← Json.required? "recoverable" Json.bool? fields)
  | _ => none

/-- The names of the fields of a kind, in the order of an array. -/
def fieldNames : String → List String
  | "StateChanged" => ["status", "path"]
  | "TrackChanged" => ["path", "title", "index"]
  | "PositionChanged" => ["path", "position_ms", "duration_ms"]
  | "FocusDenied" => ["path"]
  | "Error" => ["path", "message", "recoverable"]
  | _ => []

/-- The event of a kind with what its payload holds beside the kind: fields, or an array of all of
them in order. -/
def ofContent? (kind : String) : Json → Option PlaybackEvent
  | .object fields => ofFields? kind fields
  | .array items =>
    if items.length = (fieldNames kind).length then
      ofFields? kind ((fieldNames kind).zip items)
    else none
  | _ => none

end PlaybackEvent

namespace LifecycleEvent

def kinds : List String := ["BecameForeground", "BecameBackground"]

def toJson : LifecycleEvent → Json
  | .becameForeground => .object [("event", .string "BecameForeground")]
  | .becameBackground => .object [("event", .string "BecameBackground")]

/-- The event of a kind, if its payload holds nothing beside the kind but unknown fields. -/
def ofContent? (kind : String) (content : Json) : Option LifecycleEvent :=
  match content, kind with
  | .object _, "BecameForeground" | .array [], "BecameForeground" => some .becameForeground
  | .object _, "BecameBackground" | .array [], "BecameBackground" => some .becameBackground
  | _, _ => none

end LifecycleEvent

inductive Domain where
  | playback
  | lifecycle
deriving DecidableEq, Repr

namespace Domain

def ofName? : String → Option Domain
  | "Playback" => some .playback
  | "Lifecycle" => some .lifecycle
  | _ => none

def readName (d : Draft) : Except Fault Domain := do
  Draft.required (ofName? (← d.readString))

def kinds : Domain → List String
  | .playback => PlaybackEvent.kinds
  | .lifecycle => LifecycleEvent.kinds

/-- The event of a kind with what its payload holds beside the kind. -/
def event? (domain : Domain) (kind : String) (content : Json) : Option CoreEvent :=
  match domain with
  | .playback => (PlaybackEvent.ofContent? kind content).map .playback
  | .lifecycle => (LifecycleEvent.ofContent? kind content).map .lifecycle

def readKind (domain : Domain) (d : Draft) : Except Fault String := do
  let kind ← d.readString
  if kind ∈ domain.kinds then return kind else throw .mismatch

/-- Reads the fields of a payload: its kind, and all others as they are. -/
def readFields (domain : Domain) (depth : Nat) : Option String → List (String × Json) →
    List (Except Fault String × Draft) → Ending → Except Fault (Option String × List (String × Json))
  | kind, others, [], ending => do
    ending.finish
    return (kind, others)
  | kind, others, (name, value) :: rest, ending => do
    let name ← name
    if name = "event" then
      let kind ← Draft.once kind domain.readKind value
      domain.readFields depth (some kind) others rest ending
    else
      let value ← value.settle depth
      domain.readFields depth kind (others ++ [(name, value)]) rest ending

/-- Reads a payload of a known domain. -/
def readPayload (domain : Domain) (d : Draft) : Except Fault CoreEvent := do
  let depth := Draft.maxDepth - 2
  match d with
  | .object fields ending =>
    let (kind, others) ← domain.readFields depth none [] fields ending
    Draft.required (domain.event? (← Draft.required kind) (.object others))
  | .array items ending =>
    let (kind, items) ← Draft.readItem domain.readKind ending items
    let items ← Draft.settleItems depth items
    ending.finish
    Draft.required (domain.event? kind (.array items))
  | d => throw d.wrongKind

/-- The kind that is named in a payload that was kept. There a kind may also be given by its
number. -/
def kind? (domain : Domain) : Json → Option String
  | .string kind => if kind ∈ domain.kinds then some kind else none
  | .nat n => domain.kinds[n]?
  | _ => none

/-- Understands a payload that was kept. -/
def ofPayload? (domain : Domain) : Json → Option CoreEvent
  | .object fields => do
    let kind ← Json.required? "event" domain.kind? fields
    domain.event? kind (.object (fields.filter (·.1 ≠ "event")))
  | .array (kind :: items) => do domain.event? (← domain.kind? kind) (.array items)
  | _ => none

end Domain

namespace CoreEvent

def toJson : CoreEvent → Json
  | .playback e => .object [("type", .string "Playback"), ("payload", e.toJson)]
  | .lifecycle e => .object [("type", .string "Lifecycle"), ("payload", e.toJson)]

/-- An event of which some fields were read. -/
structure Partial where
  domain : Option Domain := none
  /-- A payload that was kept. -/
  payload : Option Json := none
  event : Option CoreEvent := none

def Partial.field (p : Partial) (name : String) : Option (Draft → Except Fault Partial) :=
  if name = "type" then some fun d => do
    let domain ← Draft.once p.domain (Draft.readWord Domain.ofName?) d
    match p.payload with
    | none => return { p with domain := some domain }
    | some payload =>
      return { p with domain := some domain, event := some (← Draft.required (domain.ofPayload? payload)) }
  else if name = "payload" then some fun d => do
    if p.payload.isSome || p.event.isSome then throw .mismatch
    match p.domain with
    | none => return { p with payload := some (← d.settle (Draft.maxDepth - 1)) }
    | some domain => return { p with event := some (← domain.readPayload d) }
  else none

def ofDraft : Draft → Except Fault CoreEvent
  | .object fields ending => do
    let p ← Draft.readFields Partial.field {} fields ending
    Draft.required p.event
  | .array items ending => do
    let (domain, items) ← Draft.readItem Domain.readName ending items
    let (event, items) ← Draft.readItem domain.readPayload ending items
    ending.close (!items.isEmpty)
    return event
  | d => .error d.wrongKind

end CoreEvent
end MediaPlayback
