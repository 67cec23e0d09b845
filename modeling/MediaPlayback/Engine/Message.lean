import MediaPlayback.Cursor
import MediaPlayback.Engine.Mode
import MediaPlayback.Host.Call

/-! The messages that the engine handles, one at a time in the order in which they arrive, and the
answers that some of them ask for. -/

namespace MediaPlayback

inductive Message where
  -- what users ask for
  | play
  | playItem (item : Item)
  | pause
  | toggle
  | forward
  | backward
  | reset
  | seek (position : Duration)
  | setRepeatMode (mode : RepeatMode)
  | setShuffle (shuffled : Bool)
  | playInPlaylist (item : Item) (playlist : Playlist)
  | setPlaylist (playlist : Playlist)
  | setIndex (index : Nat)
  -- what users want to know
  | snapshot
  | progress
  -- what the host and the clock report
  | prepared (request : Nat) (item : Item) (result : Except HostError PreparedSession)
  | output (event : OutputEvent)
  | focus (change : FocusChange)
  | lifecycle (event : LifecycleEvent)
  | tick
  -- the end
  | shutdown
deriving Repr

def Message.name : Message → String
  | .play => "play"
  | .playItem .. => "play_item"
  | .pause => "pause"
  | .toggle => "toggle_play_pause"
  | .forward => "forward"
  | .backward => "backward"
  | .reset => "reset"
  | .seek .. => "seek"
  | .setRepeatMode .. => "set_repeat_mode"
  | .setShuffle .. => "set_shuffle"
  | .playInPlaylist .. => "play_item_in_playlist"
  | .setPlaylist .. => "set_playlist"
  | .setIndex .. => "set_index"
  | .snapshot => "snapshot"
  | .progress => "progress"
  | .prepared .. => "prepared"
  | .output .. => "adapter_event"
  | .focus .. => "focus_change"
  | .lifecycle .. => "lifecycle"
  | .tick => "progress_tick"
  | .shutdown => "shutdown"

/-- Whether a message is one that users send. The others come from the host and from the clock. -/
def Message.isCommand : Message → Bool
  | .prepared .. | .output _ | .focus _ | .lifecycle _ | .tick => false
  | _ => true

/-- A message that users send. Whoever holds a handle, a listener among others, can send no other. -/
abbrev Command := { m : Message // m.isCommand }

/-- What the engine looks like from outside at one moment. -/
structure Snapshot where
  state : PlaybackState
  item : Option Item
  index : Option Nat
  duration : Option Duration
  repeatMode : RepeatMode
  shuffled : Bool
  length : Nat
  playlistName : Option String
deriving DecidableEq, Repr

/-- The answer to a message that asks for one. -/
inductive Reply where
  | index (result : Except PlaybackError Unit)
  | snapshot (s : Snapshot)
  | position (d : Option Duration)
  | stopped
deriving Repr

/-- What a listener is told. -/
inductive Notice where
  | trackChanged (item : Option Item)
  | stateChanged (state : PlaybackState)
  | becameForeground
  | becameBackground
deriving DecidableEq, Repr

/-- The name of the listener's operation that takes a notice. -/
def Notice.operation : Notice → String
  | .trackChanged _ => "on_track_changed"
  | .stateChanged _ => "on_state_changed"
  | .becameForeground => "on_became_foreground"
  | .becameBackground => "on_became_background"

end MediaPlayback
