import MediaPlayback.Desktop.Basic
import MediaPlayback.Engine.World
import MediaPlayback.Rehearsal.Feed

/-! The host of a rehearsal. It answers as it was told to: any operation can be made to fail, focus
can be refused, and a file can be made to wait for a permit before it is prepared. Its listeners are
actors, each of a kind that says what it does when it is told something. -/

namespace MediaPlayback

inductive ActorKind where
  | record
  /-- Does nothing and leaves no trace. -/
  | silent
  | breakDown
  /-- Breaks off with a message that has the actor's name. -/
  | breakDownByName
  /-- Breaks off with something that is no message. -/
  | breakDownMutely
  | removeSelf
  | addOther
  | pauseOnPlaying
deriving DecidableEq, Repr

structure Actor where
  name : String
  kind : ActorKind
deriving DecidableEq, Repr

namespace Actor

/-- What an actor does when it is told something. -/
def react (actor : Actor) (id : ListenerId) (notice : Notice) : Reaction Actor Command :=
  match actor.kind with
  | .record | .silent => {}
  | .breakDown => { breakdown := some (.text "listener bug") }
  | .breakDownByName => { breakdown := some (.text ("listener " ++ actor.name ++ " bug")) }
  | .breakDownMutely => { breakdown := some .other }
  | .removeSelf => { edits := [.remove id] }
  | .addOther => { edits := [.add ⟨actor.name ++ "+", .record⟩] }
  | .pauseOnPlaying => { posts := if notice = .stateChanged .playing then [⟨.pause, rfl⟩] else [] }

/-- Whether an actor can send messages to the engine. -/
def keepsRunning (actor : Actor) : Bool :=
  actor.kind matches .removeSelf | .addOther | .pauseOnPlaying

end Actor

/-- How a file behaves when it is prepared. -/
structure Medium where
  /-- Whether it waits for a permit. -/
  gated : Bool := false
  failure : Option HostError := none
  /-- Its length, which may be unknown. -/
  duration : Option Duration := some (.ofSeconds 30)
  /-- The number of its session, if it is not the next one. -/
  session : Option Nat := none
deriving DecidableEq, Repr, Inhabited

/-- Where a rehearsal's attachments come from. -/
inductive RehearsalStore where
  | scripted
  | emptyDirectory
deriving DecidableEq, Repr, Inhabited

/-- The state of a rehearsal's host. -/
structure ScriptedHost where
  /-- The operations that fail. -/
  errors : List (String × HostError) := []
  granted : Bool := true
  screen : Bool := true
  position : Duration := .ofMillis 1500
  media : List (String × Medium) := []
  /-- Permits for gated files. -/
  permits : List (String × Nat) := []
  attachments : List (String × Attachment) := []
  conversations : List (String × Conversation) := []
  appState : AppState := .foreground
  nextSession : Nat := 1
  /-- The sessions that are prepared and not unloaded. -/
  live : List SessionId := []
  lastPlayed : SessionId := .ofNat 0
  outputs : Feed OutputEvent := {}
  focus : Feed FocusChange := {}
  appStates : Feed AppState := {}
  /-- Whether focus, power, notifications and app state are those of a desktop. -/
  desktop : Bool := false
  store : RehearsalStore := .scripted
deriving Inhabited

/-- The name under which an operation can be made to fail. -/
def HostCall.operation : HostCall → String
  | .subscribeOutput => "subscribe_events"
  | .play _ => "play"
  | .pause _ => "pause"
  | .seek .. => "seek"
  | .position _ => "position"
  | .unload _ => "unload"
  | .subscribeFocus => "subscribe_focus"
  | .requestFocus => "request_focus"
  | .abandonFocus => "abandon_focus"
  | .isScreenOn => "is_screen_on"
  | .acquireWakeLock .. => "acquire_wake"
  | .releaseWakeLock _ => "release_wake"
  | .showNotification .. => "show"
  | .cancelNotification _ => "cancel"
  | .appState => "get_state"
  | .subscribeAppState => "subscribe_lifecycle"
  | .resolve _ => "resolve"
  | .conversationFor _ => "conversation_for"

namespace ScriptedHost

/-- The answer about a session that is not live. -/
def unlessLive {α : Type} (h : ScriptedHost) (session : SessionId) (a : α) : Except HostError α :=
  if session ∈ h.live then .ok a else .error (.unknownSession session.text)

/-- Claims a feed, unless that was done before. -/
def claim {α : Type} (f : Feed α) : Except HostError Unit × Feed α :=
  if f.claimed then (.error (.operationFailed "already subscribed"), f)
  else (.ok (), { f with claimed := true })

/-- What a call changes even if it fails. -/
def touch (h : ScriptedHost) : HostCall → ScriptedHost
  | .play session => { h with lastPlayed := session }
  | .unload session => { h with live := h.live.filter (· ≠ session) }
  | _ => h

/-- The answer to a call that does not fail. -/
def succeed (h : ScriptedHost) : (call : HostCall) → call.Result × ScriptedHost
  | .subscribeOutput => let (r, outputs) := claim h.outputs; (r, { h with outputs })
  | .subscribeFocus => let (r, focus) := claim h.focus; (r, { h with focus })
  | .subscribeAppState => let (r, appStates) := claim h.appStates; (r, { h with appStates })
  | .play session | .pause session | .seek session _ => (h.unlessLive session (), h)
  | .position session => (h.unlessLive session h.position, h)
  | .unload _ | .abandonFocus | .acquireWakeLock .. | .releaseWakeLock _ | .showNotification ..
  | .cancelNotification _ => (.ok (), h)
  | .requestFocus => (.ok (if h.granted then .granted else .denied), h)
  | .isScreenOn => (.ok h.screen, h)
  | .appState => (.ok h.appState, h)
  | .resolve id =>
    match h.attachments.lookup id with
    | some attachment => (.ok attachment, h)
    | none => (.error (.attachmentNotFound id), h)
  | .conversationFor id => (.ok (h.conversations.lookup id), h)

/-- The answer of the desktop, if there is one and it answers the call. -/
def desktopAnswer? (h : ScriptedHost) (call : HostCall) : Option call.Answer :=
  if h.desktop then call.desktopAnswer? else none

def answer (h : ScriptedHost) (call : HostCall) : call.Result × ScriptedHost :=
  match h.desktopAnswer? call with
  | some answer => (.ok answer, h)
  | none =>
    match h.store, call with
    | .emptyDirectory, .resolve id => (.error (.attachmentNotFound id), h)
    | .emptyDirectory, .conversationFor _ => (.ok none, h)
    | _, call =>
      let h := h.touch call
      match h.errors.lookup call.operation with
      | some e => (.error e, h)
      | none => h.succeed call

/-- Whether a call is seen by the scripted part of the host. -/
def sees (h : ScriptedHost) : HostCall → Bool
  | .subscribeOutput | .subscribeFocus | .subscribeAppState | .appState => false
  | .resolve _ | .conversationFor _ => h.store = .scripted
  | call => (h.desktopAnswer? call).isNone

def medium (h : ScriptedHost) (path : String) : Medium := (h.media.lookup path).getD {}

/-- Takes a permit for a file, if it needs one. There is no answer while there is none. -/
def admit? (h : ScriptedHost) (path : String) : Option ScriptedHost :=
  if (h.medium path).gated then
    match h.permits.lookup path with
    | some (n + 1) => some { h with permits := (path, n) :: h.permits.filter (·.1 ≠ path) }
    | _ => none
  else some h

/-- Prepares a file that was admitted. -/
def prepare (h : ScriptedHost) (path : String) : Except HostError PreparedSession × ScriptedHost :=
  let medium := h.medium path
  match medium.failure with
  | some e => (.error e, h)
  | none =>
    let (number, nextSession) := match medium.session with
      | some number => (number, h.nextSession)
      | none => (h.nextSession, h.nextSession + 1)
    let session := SessionId.ofNat number
    (.ok ⟨session, medium.duration⟩,
      { h with nextSession, live := session :: h.live.filter (· ≠ session) })

/-- Gives permits for a file. -/
def permit (h : ScriptedHost) (path : String) (count : Nat) : ScriptedHost :=
  let held := (h.permits.lookup path).getD 0
  { h with permits := (path, held + count) :: h.permits.filter (·.1 ≠ path) }

end ScriptedHost

instance : Surroundings ScriptedHost Actor where
  answer := ScriptedHost.answer
  react outside _ id actor notice := (actor.react id notice, outside)
  keepsRunning _ actor := actor.keepsRunning

abbrev ScriptedWorld := World ScriptedHost Actor

end MediaPlayback
