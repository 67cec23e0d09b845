import MediaPlayback.Error
import MediaPlayback.Log.Filter
import MediaPlayback.Text.Quoted

/-! How logging is set up: the form of the log on the console, the filter, and the sink of the host,
which gets every entry that passes the filter and is urgent enough for the sink. -/

namespace MediaPlayback

/-- The form of the log on the console. -/
inductive LogFormat where
  | pretty
  | json
  | compact
deriving DecidableEq, Repr, Inhabited

def LogFormat.name : LogFormat → String
  | .pretty => "Pretty"
  | .json => "Json"
  | .compact => "Compact"

/-- How logging is set up. -/
structure LogSetup where
  format : LogFormat := .pretty
  level : LogLevel := .info
  filter : Option String := none
  hasSink : Bool := false
  spans : Bool := true
  target : Bool := true
  threadInfo : Bool := false
deriving DecidableEq, Repr

namespace LogSetup

/-- The parts of the playback core, which are logged at the level that is set; all others only from
warnings on. -/
def ownParts : List String := ["core_runtime", "core_playback", "core_service", "bridge_desktop"]

/-- The directives that are used where none are given. -/
def defaultFilter (level : LogLevel) : LogFilter :=
  { level := some .warn } :: ownParts.map fun part => { target := some part, level := some level }

/-- Why logging cannot be set up. -/
inductive Failure where
  | refused (e : ConfigError)
  /-- The program breaks down over the filter. -/
  | crashed
deriving DecidableEq, Repr

/-- What comes of a filter that cannot be read. -/
def Failure.ofFault : DirectiveFault → Failure
  | .form => .refused (.invalid "Invalid log filter: invalid filter directive")
  | .level =>
    .refused (.invalid ("Invalid log filter: error parsing level filter: expected one of \"off\", " ++
      "\"error\", \"warn\", \"info\", \"debug\", \"trace\", or a number 0-5"))
  | .pattern =>
    .refused (.invalid "Invalid log filter: invalid field filter: error building NFA")
  | .cut => .crashed

def build (s : LogSetup) : Except Failure LogFilter :=
  match s.filter with
  | some text => (LogFilter.ofText text).mapError Failure.ofFault
  | none => .ok (defaultFilter s.level)

/-- The report that logging was set up before. -/
def repeated : ConfigError :=
  .invalid ("Failed to initialize logging: a global default trace dispatcher has already been set")

/-- Sets logging up, which can be done only once. -/
def start (s : LogSetup) (started : Bool) : Except Failure LogFilter := do
  let filter ← s.build
  if started then throw (.refused repeated)
  return filter

/-- How diagnostics write the setup. -/
def debug (s : LogSetup) : String :=
  "LoggingConfig \x7b format: " ++ s.format.name ++ ", level: " ++ s.level.name ++ ", filter: " ++
    (match s.filter with
      | none => "None"
      | some filter => "Some(" ++ quotedText filter ++ ")") ++
    ", logger_sink: " ++ (if s.hasSink then "Some(\"LoggerSink \x7b ... \x7d\")" else "None") ++
    ", enable_spans: " ++ toString s.spans ++ " \x7d"

end LogSetup

/-- The entries that reach a sink which takes only entries from a level on. -/
def forwarded (filter : LogFilter) (level : LogLevel) (entries : List LogRecord) : List LogRecord :=
  entries.filter fun r => filter.keeps r && level ≤ r.level

end MediaPlayback
