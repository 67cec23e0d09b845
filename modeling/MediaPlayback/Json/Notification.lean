import MediaPlayback.Cursor
import MediaPlayback.Event
import MediaPlayback.Host.Notification
import MediaPlayback.Json.Reader
import MediaPlayback.Log.Record

/-! The JSON forms of what a notification says, and of plain words. -/

namespace MediaPlayback

open Draft (readString readBool readNat readOptional readWord readFields readItem once required)

namespace Conversation

def toJson (c : Conversation) : Json :=
  .object [("id", .string c.id), ("display_name", .ofText? c.displayName)]

/-- A conversation of which some fields were read. -/
structure Partial where
  id : Option String := none
  displayName : Option (Option String) := none

def Partial.field (p : Partial) (name : String) : Option (Draft → Except Fault Partial) :=
  if name = "id" then some fun d => do
    return { p with id := some (← once p.id readString d) }
  else if name = "display_name" then some fun d => do
    return { p with displayName := some (← once p.displayName (readOptional readString) d) }
  else none

def ofDraft : Draft → Except Fault Conversation
  | .object fields ending => do
    let p ← readFields Partial.field {} fields ending
    return ⟨← required p.id, p.displayName.getD none⟩
  | .array items ending => do
    let (id, items) ← readItem readString ending items
    let (displayName, items) ← readItem (readOptional readString) ending items
    ending.close (!items.isEmpty)
    return ⟨id, displayName⟩
  | d => .error d.wrongKind

end Conversation

namespace TapTarget

def toJson : TapTarget → Json
  | .player => .string "Player"
  | .conversation c => .object [("Conversation", c.toJson)]

def ofDraft (d : Draft) : Except Fault TapTarget := do
  let t ← d.readTagged
  if t.word = "Player" then
    t.plain
    return .player
  else if t.word = "Conversation" then
    match t.payload with
    | none => throw .mismatch
    | some payload =>
      let c ← Conversation.ofDraft payload
      t.close
      return .conversation c
  else throw .mismatch

end TapTarget

namespace NotificationContent

def toJson (c : NotificationContent) : Json :=
  .object [("title", .string c.title), ("subtitle", .ofText? c.subtitle),
    ("is_playing", .bool c.isPlaying), ("tap_target", c.tapTarget.toJson)]

/-- A content of which some fields were read. -/
structure Partial where
  title : Option String := none
  subtitle : Option (Option String) := none
  isPlaying : Option Bool := none
  tapTarget : Option TapTarget := none

def Partial.field (p : Partial) (name : String) : Option (Draft → Except Fault Partial) :=
  if name = "title" then some fun d => do
    return { p with title := some (← once p.title readString d) }
  else if name = "subtitle" then some fun d => do
    return { p with subtitle := some (← once p.subtitle (readOptional readString) d) }
  else if name = "is_playing" then some fun d => do
    return { p with isPlaying := some (← once p.isPlaying readBool d) }
  else if name = "tap_target" then some fun d => do
    return { p with tapTarget := some (← once p.tapTarget TapTarget.ofDraft d) }
  else none

def ofDraft : Draft → Except Fault NotificationContent
  | .object fields ending => do
    let p ← readFields Partial.field {} fields ending
    return ⟨← required p.title, p.subtitle.getD none, ← required p.isPlaying, ← required p.tapTarget⟩
  | .array items ending => do
    let (title, items) ← readItem readString ending items
    let (subtitle, items) ← readItem (readOptional readString) ending items
    let (isPlaying, items) ← readItem readBool ending items
    let (tapTarget, items) ← readItem TapTarget.ofDraft ending items
    ending.close (!items.isEmpty)
    return ⟨title, subtitle, isPlaying, tapTarget⟩
  | d => .error d.wrongKind

end NotificationContent

namespace NotificationId

def toJson (id : NotificationId) : Json := .nat id.slot.toNat

def ofDraft (d : Draft) : Except Fault NotificationId := do
  return ⟨.ofNat (← readNat UInt32.size d)⟩

end NotificationId

/-- The state that is shown as `word`. -/
def PlaybackState.ofName? (word : String) : Option PlaybackState :=
  [.stopped, .paused, .playing].find? (·.name == word)

def PlaybackState.ofDraft : Draft → Except Fault PlaybackState := readWord PlaybackState.ofName?

/-- The repeat mode that is shown as `word`. -/
def RepeatMode.ofName? (word : String) : Option RepeatMode :=
  [.off, .all, .item].find? (·.name == word)

def RepeatMode.ofDraft : Draft → Except Fault RepeatMode := readWord RepeatMode.ofName?

def LogLevel.ofDraft : Draft → Except Fault LogLevel := readWord LogLevel.ofName?

end MediaPlayback
