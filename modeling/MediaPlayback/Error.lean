import MediaPlayback.Host.Error

/-! What can go wrong with playback, with the configuration and with the service around them, and
the text that reports each cause. -/

namespace MediaPlayback

/-- Why a playback command or a notification failed. -/
inductive PlaybackError where
  | focusDenied (path : String)
  | prepareFailed (path message : String)
  | playbackFailed (message : String)
  | indexOutOfRange (index length : Nat)
  | noCurrentItem
  /-- A listener broke off while it was told about `event`. -/
  | listenerFailure (listener : Nat) (event message : String)
  | engineShutdown
  | host (error : HostError)
deriving DecidableEq, Repr, Inhabited

namespace PlaybackError

/-- The name of a cause. -/
def kind : PlaybackError → String
  | .focusDenied _ => "FocusDenied"
  | .prepareFailed .. => "PrepareFailed"
  | .playbackFailed _ => "PlaybackFailed"
  | .indexOutOfRange .. => "IndexOutOfRange"
  | .noCurrentItem => "NoCurrentItem"
  | .listenerFailure .. => "ListenerFailure"
  | .engineShutdown => "EngineShutdown"
  | .host error => "Bridge." ++ error.kind

def message : PlaybackError → String
  | .focusDenied path => "Audio focus denied for " ++ path
  | .prepareFailed path message => "Failed to prepare " ++ path ++ ": " ++ message
  | .playbackFailed message => "Playback operation failed: " ++ message
  | .indexOutOfRange index length =>
    "Index " ++ toString index ++ " out of range for playlist of length " ++ toString length
  | .noCurrentItem => "No current item"
  | .listenerFailure listener event message =>
    "Listener " ++ toString listener ++ " failed during " ++ event ++ ": " ++ message
  | .engineShutdown => "Playback engine has shut down"
  | .host error => "Bridge error: " ++ error.message

/-- Whether the engine can go on with the next command. -/
def isRecoverable (e : PlaybackError) : Bool := e != .engineShutdown

end PlaybackError

/-- Why a configuration was refused. -/
inductive ConfigError where
  | invalid (message : String)
  | capabilityMissing (capability message : String)
  | internal (message : String)
deriving DecidableEq, Repr, Inhabited

namespace ConfigError

/-- The name of a cause. -/
def kind : ConfigError → String
  | .invalid _ => "Config"
  | .capabilityMissing .. => "CapabilityMissing"
  | .internal _ => "Internal"

def message : ConfigError → String
  | .invalid message => "Configuration error: " ++ message
  | .capabilityMissing capability message =>
    "Capability missing: " ++ capability ++ " - " ++ message
  | .internal message => "Internal error: " ++ message

end ConfigError

/-- Why the playback service failed. -/
inductive ServiceError where
  | initializationFailed (reason : String)
  | capabilityMissing (capability message : String)
  | config (error : ConfigError)
  | playback (error : PlaybackError)
deriving DecidableEq, Repr, Inhabited

namespace ServiceError

/-- The name of a cause. -/
def kind : ServiceError → String
  | .initializationFailed _ => "InitializationFailed"
  | .capabilityMissing .. => "CapabilityMissing"
  | .config error => "Runtime." ++ error.kind
  | .playback error => "Playback." ++ error.kind

def message : ServiceError → String
  | .initializationFailed reason => "Core initialization failed: " ++ reason
  | .capabilityMissing capability message =>
    "Capability missing: " ++ capability ++ " - " ++ message
  | .config error => "Runtime error: " ++ error.message
  | .playback error => "Playback error: " ++ error.message

end ServiceError

end MediaPlayback
