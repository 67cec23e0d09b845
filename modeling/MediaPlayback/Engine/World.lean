import MediaPlayback.Engine.Message
import MediaPlayback.Listener.Registry
import MediaPlayback.Log.Record
import MediaPlayback.Settings

/-! The engine's own state, the world that it acts in, and the ways in which it acts: it calls the
host, announces events, tells listeners, and writes to the log. All that happens is kept in one
trace, in the order in which it happened, and what is outside the engine may answer and react in any
way. -/

namespace MediaPlayback

/-- What is outside the engine: `answer` says what the host does with a call, and `react` what a
listener does with a notice, given the number that the next registration gets. A listener for which
`keepsRunning` holds can post messages, and the engine does not end while it is registered. -/
class Surroundings (σ L : Type) where
  answer : σ → (call : HostCall) → call.Result × σ
  react : σ → UInt64 → ListenerId → L → Notice → Reaction L Command × σ
  keepsRunning : σ → L → Bool

/-- An item that is to be prepared, and the request that it is prepared for. -/
structure PrepareTask where
  request : Nat
  item : Item
  output : OutputRequest
deriving DecidableEq, Repr

/-- Something that happened. -/
inductive Effect (L : Type) where
  | called (call : HostCall) (result : call.Result)
  /-- The host was asked to prepare a session. -/
  | prepares (output : OutputRequest)
  | emitted (event : CoreEvent)
  | notified (id : ListenerId) (listener : L) (notice : Notice)
  | logged (entry : LogRecord)
  /-- The engine started to prepare an item. -/
  | started (task : PrepareTask)
  /-- A session became the live one. -/
  | adopted (session : SessionId)
  | replied (reply : Reply)

/-- The engine's own state. -/
structure Engine where
  mode : Mode := .idle
  cursor : Cursor := {}
  /-- The output session that exists. -/
  live : Option SessionId := none
  hasFocus : Bool := false
  holdsWakeLock : Bool := false
  /-- Whether the playback notification is shown. -/
  shown : Bool := false
  backgrounded : Bool := false
  /-- Whether playback was paused by a transient loss of focus. -/
  focusPaused : Bool := false
  /-- The state that was published last. -/
  lastState : PlaybackState := .stopped
  /-- The item that was published last. -/
  lastItem : Option Item := none
  /-- The number of the last request to prepare. -/
  lastRequest : Nat := 0
deriving DecidableEq, Repr, Inhabited

/-- The engine and all that it acts on. -/
structure World (σ L : Type) where
  engine : Engine := {}
  settings : Settings := {}
  catalog : Catalog := {}
  listeners : Registry L := {}
  /-- The state of what is outside. -/
  outside : σ
  entropy : Entropy := []
  /-- Messages that listeners posted, the first one first. -/
  posted : List Command := []
  /-- Tasks that the engine started, the first one first. -/
  tasks : List PrepareTask := []
  /-- What happened, the last thing first. -/
  trace : List (Effect L) := []

namespace World

variable {σ L : Type}

/-- What happened, in order. -/
def history (w : World σ L) : List (Effect L) := w.trace.reverse

def record (w : World σ L) (effect : Effect L) : World σ L := { w with trace := effect :: w.trace }

/-- Writes an entry that was made during an activity. -/
def logWithin (w : World σ L) (span : Option String) (source : LogSource) (level : LogLevel)
    (message : String) (fields : List (String × String)) : World σ L :=
  w.record (.logged ⟨level, source.target, message, fields, span⟩)

def log (w : World σ L) (source : LogSource) (level : LogLevel) (message : String)
    (fields : List (String × String)) : World σ L :=
  w.logWithin none source level message fields

def emit (w : World σ L) (event : PlaybackEvent) : World σ L := w.record (.emitted (.playback event))

def reply (w : World σ L) (r : Reply) : World σ L := w.record (.replied r)

def setMode (w : World σ L) (mode : Mode) : World σ L :=
  { w with engine := { w.engine with mode } }

def setCursor (w : World σ L) (cursor : Cursor) : World σ L :=
  { w with engine := { w.engine with cursor } }

/-- Sets a new playlist, for which shuffle may draw random words. -/
def setPlaylistOf (w : World σ L) (playlist : Playlist) : World σ L :=
  let (cursor, entropy) := w.engine.cursor.setPlaylist playlist w.entropy
  { w.setCursor cursor with entropy }

def setFocusPaused (w : World σ L) (focusPaused : Bool) : World σ L :=
  { w with engine := { w.engine with focusPaused } }

/-- Notes what a listener did. -/
def recordTold (notice : Notice) (w : World σ L) (told : Told L Command) : World σ L :=
  let w := w.record (.notified told.id told.listener notice)
  let w := { w with posted := w.posted ++ told.posts }
  match told.breakdown with
  | none => w
  | some b =>
    let failure := PlaybackError.listenerFailure told.id.value.toNat notice.operation b.message
    w.log .listeners .warn "Listener failed; continuing fan-out" [("error", failure.message)]

variable [Surroundings σ L]

def call (w : World σ L) (c : HostCall) : c.Result × World σ L :=
  let (result, outside) := Surroundings.answer L w.outside c
  (result, { w with outside, trace := .called c result :: w.trace })

/-- Tells every listener. -/
def tell (w : World σ L) (notice : Notice) : World σ L :=
  let (told, listeners, outside) := w.listeners.notify
    (fun r id listener outside => Surroundings.react outside r.next id listener notice) w.outside
  told.foldl (recordTold notice) { w with listeners, outside }

end World
end MediaPlayback
