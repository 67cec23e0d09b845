/-! Entries of the diagnostic log: what is said, how urgent it is, and which part says it. -/

namespace MediaPlayback

/-- How urgent a log entry is. -/
inductive LogLevel where
  | trace
  | debug
  | info
  | warn
  | error
deriving DecidableEq, Repr, Inhabited

namespace LogLevel

/-- The place of a level among all, from the least urgent on. -/
def rank : LogLevel → Nat
  | .trace => 0
  | .debug => 1
  | .info => 2
  | .warn => 3
  | .error => 4

instance : LE LogLevel := ⟨fun a b => a.rank ≤ b.rank⟩

instance (a b : LogLevel) : Decidable (a ≤ b) := inferInstanceAs (Decidable (a.rank ≤ b.rank))

/-- The word that is shown for a level. -/
def name : LogLevel → String
  | .trace => "Trace"
  | .debug => "Debug"
  | .info => "Info"
  | .warn => "Warn"
  | .error => "Error"

def all : List LogLevel := [.trace, .debug, .info, .warn, .error]

/-- The level that is shown as `word`. -/
def ofName? (word : String) : Option LogLevel := all.find? (·.name == word)

end LogLevel

/-- An entry of the log, without its time. -/
structure LogRecord where
  level : LogLevel
  /-- The part that made the entry. -/
  target : String
  message : String
  fields : List (String × String) := []
  /-- The activity during which it was made. -/
  span : Option String := none
deriving DecidableEq, Repr, Inhabited

/-- The parts that make log entries. -/
inductive LogSource where
  | engine
  | resources
  | notification
  | lifecycle
  | listeners
  | item
  | progress
  | service
  | desktopFocus
  | desktopNotification
  | desktopLifecycle
  | desktopAttachments
deriving DecidableEq, Repr

/-- The name under which a part appears in the log. -/
def LogSource.target : LogSource → String
  | .engine => "core_playback::engine::actor"
  | .resources => "core_playback::resources"
  | .notification => "core_playback::notification"
  | .lifecycle => "core_playback::lifecycle"
  | .listeners => "core_playback::listeners"
  | .item => "core_playback::item"
  | .progress => "core_playback::progress"
  | .service => "core_service"
  | .desktopFocus => "bridge_desktop::focus"
  | .desktopNotification => "bridge_desktop::notification"
  | .desktopLifecycle => "bridge_desktop::background"
  | .desktopAttachments => "bridge_desktop::attachments"

end MediaPlayback
