import MediaPlayback.Host.Call
import MediaPlayback.Log.Record

/-! The host of a desktop. Nothing competes for the audio output and the screen counts as always on,
so that every request is granted; the desktop only keeps account of what is held and shown, and says
so in the log. -/

namespace MediaPlayback

/-- What a desktop has handed out and shows. -/
structure Desktop where
  holdsFocus : Bool := false
  /-- The names of the wake locks that are held. -/
  wakeLocks : List String := []
  /-- The notifications that are shown, by their slots. -/
  shown : List (NotificationId × NotificationContent) := []
deriving Repr, Inhabited

namespace Desktop

def entry (source : LogSource) (level : LogLevel) (message : String)
    (fields : List (String × String)) : LogRecord :=
  { level, target := source.target, message, fields }

def requestFocus (d : Desktop) : Desktop × List LogRecord :=
  ({ d with holdsFocus := true }, [entry .desktopFocus .debug "Audio focus granted" []])

def abandonFocus (d : Desktop) : Desktop × List LogRecord :=
  ({ d with holdsFocus := false },
    if d.holdsFocus then [entry .desktopFocus .debug "Audio focus abandoned" []] else [])

def holdsWakeLock (d : Desktop) (tag : String) : Bool := tag ∈ d.wakeLocks

def acquireWakeLock (d : Desktop) (tag : String) (timeout : Duration) : Desktop × List LogRecord :=
  let acquired := entry .desktopFocus .debug "Wake lock acquired"
    [("tag", tag), ("timeout_ms", toString timeout.millis64.toNat)]
  if d.holdsWakeLock tag then
    (d, [entry .desktopFocus .warn "Wake lock acquired twice" [("tag", tag)], acquired])
  else ({ d with wakeLocks := tag :: d.wakeLocks }, [acquired])

def releaseWakeLock (d : Desktop) (tag : String) : Desktop × List LogRecord :=
  ({ d with wakeLocks := d.wakeLocks.filter (· ≠ tag) },
    if d.holdsWakeLock tag then [entry .desktopFocus .debug "Wake lock released" [("tag", tag)]]
    else [])

/-- What is shown in a slot. -/
def visible (d : Desktop) (id : NotificationId) : Option NotificationContent := d.shown.lookup id

/-- Shows a notification, in place of the one in its slot. -/
def display (d : Desktop) (id : NotificationId) (content : NotificationContent) :
    Desktop × List LogRecord :=
  ({ d with shown := (id, content) :: d.shown.filter (·.1 ≠ id) },
    [entry .desktopNotification .info "Showing playback notification"
      [("notification_id", toString id.slot.toNat), ("title", content.title),
        ("subtitle", content.subtitle.getD ""), ("is_playing", toString content.isPlaying)]])

/-- Takes the notification out of a slot. -/
def cancel (d : Desktop) (id : NotificationId) : Desktop × List LogRecord :=
  ({ d with shown := d.shown.filter (·.1 ≠ id) },
    if (d.visible id).isSome then
      [entry .desktopNotification .info "Cancelled playback notification"
        [("notification_id", toString id.slot.toNat)]]
    else [])

/-- What a call to the desktop changes, and what the desktop writes to the log. -/
def perform (d : Desktop) : HostCall → Desktop × List LogRecord
  | .requestFocus => d.requestFocus
  | .abandonFocus => d.abandonFocus
  | .acquireWakeLock tag timeout => d.acquireWakeLock tag timeout
  | .releaseWakeLock tag => d.releaseWakeLock tag
  | .showNotification id content => d.display id content
  | .cancelNotification id => d.cancel id
  | _ => (d, [])

end Desktop

/-- The answer of a desktop to a call, if the call is one that a desktop answers. A desktop's app is
in front of the user. -/
def HostCall.desktopAnswer? : (call : HostCall) → Option call.Answer
  | .subscribeFocus | .abandonFocus | .acquireWakeLock .. | .releaseWakeLock _
  | .showNotification .. | .cancelNotification _ | .subscribeAppState => some ()
  | .requestFocus => some .granted
  | .isScreenOn => some true
  | .appState => some .foreground
  | _ => none

end MediaPlayback
