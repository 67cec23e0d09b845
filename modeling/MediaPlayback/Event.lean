/-! What is announced to subscribers: changes of playback, and the app's moves between foreground
and background. -/

namespace MediaPlayback

/-- Whether something is playing, as everyone outside the engine sees it. -/
inductive PlaybackState where
  | stopped
  | paused
  | playing
deriving DecidableEq, Repr, Inhabited

namespace PlaybackState

/-- The word for a state in lower case. -/
def text : PlaybackState → String
  | .stopped => "stopped"
  | .paused => "paused"
  | .playing => "playing"

/-- The word for a state in messages that are read by machines. -/
def name : PlaybackState → String
  | .stopped => "Stopped"
  | .paused => "Paused"
  | .playing => "Playing"

end PlaybackState

inductive PlaybackEvent where
  | stateChanged (status : PlaybackState) (path : Option String)
  | trackChanged (path title : Option String) (index : Option UInt64)
  /-- Position and duration are in milliseconds; the duration is zero while it is not known. -/
  | positionChanged (path : String) (position duration : UInt64)
  | focusDenied (path : String)
  | error (path : Option String) (message : String) (recoverable : Bool)
deriving DecidableEq, Repr

/-- A declared move of the app. -/
inductive LifecycleEvent where
  | becameForeground
  | becameBackground
deriving DecidableEq, Repr, Inhabited

/-- Whatever is announced. -/
inductive CoreEvent where
  | playback (event : PlaybackEvent)
  | lifecycle (event : LifecycleEvent)
deriving DecidableEq, Repr

/-- The word for the part of the core that an event is about. -/
def CoreEvent.domain : CoreEvent → String
  | .playback _ => "Playback"
  | .lifecycle _ => "Lifecycle"

def CoreEvent.kind : CoreEvent → String
  | .playback (.stateChanged ..) => "StateChanged"
  | .playback (.trackChanged ..) => "TrackChanged"
  | .playback (.positionChanged ..) => "PositionChanged"
  | .playback (.focusDenied ..) => "FocusDenied"
  | .playback (.error ..) => "Error"
  | .lifecycle .becameForeground => "BecameForeground"
  | .lifecycle .becameBackground => "BecameBackground"

end MediaPlayback
