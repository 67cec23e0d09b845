import MediaPlayback.Duration
import MediaPlayback.Error

/-! The tuning values of the playback core, their defaults, and which of them are accepted. -/

namespace MediaPlayback

/-- Tuning values of the playback core. -/
structure Settings where
  /-- How long the app has to stay out of sight before it counts as in the background. -/
  backgroundDebounce : Duration := .ofMillis 500
  /-- The time between two reports of the position. -/
  progressInterval : Duration := .ofSeconds 1
  /-- The time after which the host drops the wake lock on its own. -/
  wakeLockTimeout : Duration := .ofSeconds 10
  /-- How many unread events are kept for each subscriber. -/
  eventBufferSize : UInt64 := 100
  /-- The slot of the playback notification. -/
  notificationId : UInt32 := 1
deriving DecidableEq, Repr, Inhabited

namespace Settings

/-- The first rule that a value breaks. -/
def validate (s : Settings) : Except ConfigError Unit :=
  if Duration.ofSeconds 10 < s.backgroundDebounce then
    .error (.invalid "Background debounce exceeds maximum of 10 seconds")
  else if s.progressInterval.isZero then
    .error (.invalid "Progress interval must be greater than 0ms")
  else if Duration.ofSeconds 60 < s.progressInterval then
    .error (.invalid "Progress interval exceeds maximum of 60 seconds")
  else if s.wakeLockTimeout.isZero then
    .error (.invalid "Wake lock timeout must be greater than 0ms")
  else if s.eventBufferSize = 0 then
    .error (.invalid "Event buffer size must be greater than 0")
  else .ok ()

def isValid (s : Settings) : Bool := s.validate matches .ok _

end Settings
end MediaPlayback
