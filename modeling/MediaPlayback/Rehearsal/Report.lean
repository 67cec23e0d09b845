import MediaPlayback.Desktop.Attachments
import MediaPlayback.Json.Event
import MediaPlayback.Json.Failure
import MediaPlayback.Rehearsal.Observer

/-! What a rehearsal shows, as JSON. A duration is a pair of seconds and nanoseconds, a session is
its number, and an act is an array of its name and of what belongs to it. -/

namespace MediaPlayback

namespace Json

/-- The value of something that may be absent. -/
def ofOption {α : Type} (toJson : α → Json) : Option α → Json
  | none => .null
  | some a => toJson a

def act (name : String) (details : List Json) : Json := .array (.string name :: details)

end Json

def Duration.toJson (d : Duration) : Json := .array [.nat d.seconds, .nat d.subsecNanos]

def Path.toJson (p : Path) : Json := .string p.text

def Item.pathJson (item : Item) : Json := item.path.toJson

def SessionId.toJson (s : SessionId) : Json := .nat s.toNat

/-- Sessions in the order of their numbers. -/
def SessionId.listJson (sessions : List SessionId) : Json :=
  .array (((sessions.map SessionId.toNat).mergeSort (fun a b => a ≤ b)).map .nat)

def PreparedSession.toJson (p : PreparedSession) : Json :=
  .array [p.session.toJson, .ofOption Duration.toJson p.duration]

def Attachment.toJson (a : Attachment) : Json :=
  .object [("path", a.path.toJson), ("title", .ofText? a.title), ("artist", .ofText? a.artist),
    ("duration", .ofOption Duration.toJson a.duration)]

/-- All that is known about an item. -/
def Catalog.describe (c : Catalog) (item : Item) : Json :=
  let m := c.trackMetadata item
  .object [("path", item.pathJson), ("file_name", .string item.fileName),
    ("display_title", .string (c.displayTitle item)), ("title", .ofText? (c.title? item)),
    ("artist", .ofText? (c.artist? item)), ("has_metadata", .bool (c.tags? item).isSome),
    ("transfer_id", .ofText? item.transferId),
    ("conversation", .ofOption Conversation.toJson item.conversation),
    ("duration", .ofOption Duration.toJson (c.duration? item)),
    ("adapter_metadata",
      .array [.ofText? m.trackId, .ofText? m.title, .ofText? m.artist, .nat m.extra.length])]

def Settings.toJson (s : Settings) : Json :=
  .object [("background_debounce", s.backgroundDebounce.toJson),
    ("progress_interval", s.progressInterval.toJson),
    ("wake_lock_timeout", s.wakeLockTimeout.toJson),
    ("event_buffer_size", .nat s.eventBufferSize.toNat),
    ("notification_id", .nat s.notificationId.toNat)]

def Snapshot.toJson (s : Snapshot) : Json :=
  .object [("state", .string s.state.name), ("item", .ofOption Item.pathJson s.item),
    ("index", .ofNat? s.index), ("duration", .ofOption Duration.toJson s.duration),
    ("repeat", .string s.repeatMode.name), ("shuffled", .bool s.shuffled),
    ("len", .nat s.length), ("name", .ofText? s.playlistName)]

def HostCall.details : HostCall → List Json
  | .play s | .pause s | .position s | .unload s => [s.toJson]
  | .seek s d => [s.toJson, d.toJson]
  | .acquireWakeLock tag timeout => [.string tag, timeout.toJson]
  | .releaseWakeLock tag => [.string tag]
  | .showNotification id content => [id.toJson, content.toJson]
  | .cancelNotification id => [id.toJson]
  | .resolve id | .conversationFor id => [.string id]
  | .requestFocus | .abandonFocus | .isScreenOn | .subscribeOutput | .subscribeFocus | .appState
  | .subscribeAppState => []

/-- What a listener was told. -/
def Notice.details : Notice → List Json
  | .trackChanged item => [.string "track", .ofOption Item.pathJson item]
  | .stateChanged state => [.string "state", .string state.name]
  | .becameForeground => [.string "foreground"]
  | .becameBackground => [.string "background"]

def Act.toJson : Act → Json
  | .called call => .act call.operation call.details
  | .prepares output =>
    .act "prepare" [output.path.toJson, .ofText? output.metadata.trackId,
      .ofText? output.metadata.title, .ofText? output.metadata.artist]
  | .told listener notice => .act "listener" (.string listener :: notice.details)

/-- What the observer read. -/
def receivedJson : Received CoreEvent → Json
  | .event e => e.toJson
  | .empty => .string "empty"
  | .lagged n => .object [("lagged", .nat n)]
  | .closed => .string "closed"

/-- A log entry without its time. Its activity is left out if there is none. -/
def LogRecord.report (r : LogRecord) : Json :=
  .object ([("level", .string r.level.name), ("target", .string r.target),
    ("message", .string r.message),
    ("fields", .object (r.fields.map fun (name, value) => (name, .string value)))] ++
    (r.span.map fun s => ("span", .string s)).toList)

end MediaPlayback
