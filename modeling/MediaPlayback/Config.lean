import MediaPlayback.Path
import MediaPlayback.Settings

/-! The configuration of a playback core: who provides each capability, and the tuning values. The
output adapter must come from the host. The other capabilities have defaults on a desktop; where
there are none, each of them must be provided, and the first one that is missing is reported. -/

namespace MediaPlayback

/-- What a playback core needs of its host. -/
inductive Capability where
  | playbackAdapter
  | audioFocus
  | powerManager
  | notificationHost
  | lifecycleObserver
  | attachmentStore
deriving DecidableEq, Repr

namespace Capability

def name : Capability → String
  | .playbackAdapter => "PlaybackAdapter"
  | .audioFocus => "AudioFocus"
  | .powerManager => "PowerManager"
  | .notificationHost => "NotificationHost"
  | .lifecycleObserver => "LifecycleObserver"
  | .attachmentStore => "AttachmentStore"

/-- When a capability is required and what for. -/
def purpose : Capability → String
  | .playbackAdapter => "to drive the native output primitive"
  | .audioFocus => "to coordinate exclusive audio output"
  | .powerManager => "to keep playback transitions alive while backgrounding"
  | .notificationHost => "to show playback controls while backgrounded"
  | .lifecycleObserver => "to detect foreground/background transitions"
  | .attachmentStore => "when an attachments directory is configured"

/-- What a mobile host would provide. -/
def mobile : Capability → String
  | .playbackAdapter => "a MediaPlayer (Android) or AVAudioPlayer (iOS) backed adapter"
  | .audioFocus => "AudioManager focus requests (Android) or AVAudioSession (iOS)"
  | .powerManager => "PowerManager wake locks (Android) or background task assertions (iOS)"
  | .notificationHost => "NotificationManager (Android) or MPNowPlayingInfoCenter (iOS)"
  | .lifecycleObserver => "ActivityLifecycleCallbacks (Android) or scene notifications (iOS)"
  | .attachmentStore => "the chat client's transfer store"

def missing (c : Capability) : ConfigError :=
  .capabilityMissing c.name (c.name ++ " implementation is required " ++ c.purpose ++
    ". Desktop: enable the 'desktop-shims' feature to use the default. Mobile: inject " ++
    c.mobile ++ ".")

end Capability

/-- Who provides a capability. -/
inductive Provider where
  | host
  | desktop
deriving DecidableEq, Repr, Inhabited

/-- Who finds attachments. -/
inductive StoreProvider where
  | host
  | directory (root : Path)
deriving DecidableEq, Repr

/-- A configuration that was accepted. -/
structure Config where
  audioFocus : Provider
  powerManager : Provider
  notificationHost : Provider
  lifecycleObserver : Provider
  attachmentStore : Option StoreProvider
  settings : Settings
deriving DecidableEq, Repr

/-- What a configuration is made from. -/
structure ConfigBuilder where
  /-- The capabilities that the host provides. -/
  provided : List Capability := []
  attachmentsDirectory : Option Path := none
  settings : Settings := {}

namespace ConfigBuilder

/-- Who provides a capability, if there is one. -/
def provider (b : ConfigBuilder) (desktopDefaults : Bool) (c : Capability) :
    Except ConfigError Provider :=
  if c ∈ b.provided then .ok .host
  else if desktopDefaults then .ok .desktop
  else .error c.missing

/-- Who finds attachments. A store of the host comes before a directory. -/
def store (b : ConfigBuilder) (desktopDefaults : Bool) :
    Except ConfigError (Option StoreProvider) :=
  if .attachmentStore ∈ b.provided then .ok (some .host)
  else
    match b.attachmentsDirectory with
    | none => .ok none
    | some root =>
      if desktopDefaults then .ok (some (.directory root))
      else .error Capability.attachmentStore.missing

/-- The configuration, or the first thing that is wrong with it. -/
def build (b : ConfigBuilder) (desktopDefaults : Bool) : Except ConfigError Config := do
  if .playbackAdapter ∉ b.provided then throw Capability.playbackAdapter.missing
  let audioFocus ← b.provider desktopDefaults .audioFocus
  let powerManager ← b.provider desktopDefaults .powerManager
  let notificationHost ← b.provider desktopDefaults .notificationHost
  let lifecycleObserver ← b.provider desktopDefaults .lifecycleObserver
  let attachmentStore ← b.store desktopDefaults
  b.settings.validate
  return {
    audioFocus, powerManager, notificationHost, lifecycleObserver, attachmentStore,
    settings := b.settings }

end ConfigBuilder

/-- How diagnostics write tuning values. -/
def Settings.debug (s : Settings) : String :=
  "PlaybackSettings \x7b background_debounce: " ++ s.backgroundDebounce.debug ++
    ", progress_interval: " ++ s.progressInterval.debug ++
    ", wake_lock_timeout: " ++ s.wakeLockTimeout.debug ++
    ", event_buffer_size: " ++ toString s.eventBufferSize.toNat ++
    ", notification_id: " ++ toString s.notificationId.toNat ++ " \x7d"

/-- How diagnostics write a capability that is there. -/
def Capability.debug (c : Capability) : String := "\"" ++ c.name ++ " \x7b ... \x7d\""

/-- How diagnostics write a configuration: who provides what is not shown. -/
def Config.debug (c : Config) : String :=
  "CoreConfig \x7b playback_adapter: " ++ Capability.playbackAdapter.debug ++
    ", audio_focus: " ++ Capability.audioFocus.debug ++
    ", power_manager: " ++ Capability.powerManager.debug ++
    ", notification_host: " ++ Capability.notificationHost.debug ++
    ", lifecycle_observer: " ++ Capability.lifecycleObserver.debug ++
    ", attachment_store: " ++
    (match c.attachmentStore with
      | none => "None"
      | some _ => "Some(" ++ Capability.attachmentStore.debug ++ ")") ++
    ", settings: " ++ c.settings.debug ++ " \x7d"

end MediaPlayback
