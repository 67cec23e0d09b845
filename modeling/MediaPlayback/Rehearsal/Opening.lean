import MediaPlayback.Config
import MediaPlayback.Rehearsal.Step

/-! How a rehearsal begins: with a signal alone, with an engine, or with a whole service. The
observer subscribes to the bus before the engine starts. -/

namespace MediaPlayback

structure Opening where
  host : ScriptedHost := {}
  settings : Settings := {}
  items : List (String × ItemRequest) := []
  /-- Whether there is an attachment store. -/
  hasStore : Bool := true
  /-- Whether the capabilities that a desktop has are left to it. -/
  desktop : Bool := false
  /-- Whether a service is started and not an engine alone. -/
  service : Bool := false
  /-- Whether the service is the one that a desktop starts by itself, with default settings. -/
  bootstrap : Bool := false
  /-- Whether the app is in the background before the engine starts. -/
  startedBackground : Bool := false
  /-- Whether timers run. -/
  hasClock : Bool := true
  /-- Whether the period of position reports becomes zero after the configuration was accepted. -/
  breakPeriod : Bool := false

/-- Why a rehearsal could not begin. -/
inductive OpeningFailure where
  | config (error : ConfigError)
  | service (error : ServiceError)
  | crashed
deriving Repr

namespace Opening

/-- What the configuration is made from. -/
def builder (o : Opening) : ConfigBuilder :=
  let provided := .playbackAdapter :: (if o.desktop || o.bootstrap then []
    else [.audioFocus, .powerManager, .notificationHost, .lifecycleObserver])
  { provided := if o.hasStore then .attachmentStore :: provided else provided
    settings := if o.bootstrap then {} else o.settings }

/-- The items that are at hand, and what is known of them. -/
def stock (o : Opening) : Shelf × Catalog := Catalog.stock {} [] o.items

/-- The host as it is when anything starts. -/
def openingHost (o : Opening) : ScriptedHost :=
  { o.host with
    desktop := o.desktop || o.bootstrap
    store := if o.bootstrap then .emptyDirectory else .scripted }

/-- The rehearsal of a core, with an observer on its bus. -/
def rehearse (o : Opening) (bus : Bus CoreEvent) (core : Core ScriptedHost Actor) : Rehearsal :=
  let (receiver, bus) := bus.subscribe
  { core, shelf := o.stock.1, bus, receiver
    service := o.service
    hasStore := o.hasStore
    hasClock := o.hasClock }

/-- The rehearsal before anything starts. -/
def stage (o : Opening) (bus : Bus CoreEvent) (settings : Settings) : Rehearsal :=
  o.rehearse bus
    { world := { settings, catalog := o.stock.2, outside := o.openingHost }
      signal := { debounce := settings.backgroundDebounce } }

/-- The app goes to the background, which nobody on the bus gets to know. -/
def sendBackground (r : Rehearsal) : Rehearsal :=
  let r := { r with core := { r.core.rawBackground with publishes := false } }.settle
  let r := r.advance r.core.signal.debounce
  { r with core := { r.core with publishes := true } }

/-- Starts an engine alone. -/
def startEngine (o : Opening) (r : Rehearsal) : Rehearsal :=
  let r := if o.startedBackground then sendBackground r else r
  { r with core := r.core.launch r.world.settings.progressInterval }.settle

/-- The configuration that the rehearsal runs with, if it is accepted. -/
def accepted (o : Opening) : Except ConfigError Config := do
  let config ← o.builder.build true
  return if o.breakPeriod then
      { config with settings := { config.settings with progressInterval := .zero } }
    else config

/-- Begins. Where no timers run, it is the service that refuses the configuration. -/
def begin (o : Opening) : Except OpeningFailure Rehearsal :=
  match o.accepted with
  | .error e => .error (if o.hasClock then .config e else .service (.config e))
  | .ok config =>
    if o.service || !o.hasClock then
      match config.startService o.hasClock o.openingHost o.stock.2 with
      | .error (.refused e) => .error (.service e)
      | .error .crashed => .error .crashed
      | .ok service =>
        if service.bus.hasRoom then
          .ok { o.rehearse service.bus service.core with following := service.following }.settle
        else .error .crashed
    else
      match Bus.allocate? config.settings.eventBufferSize.toNat with
      | none => .error .crashed
      | some bus => .ok (o.startEngine (o.stage bus config.settings))

/-- Begins with a signal alone, which announces its declarations if `publishes`. -/
def beginSignal (o : Opening) (publishes : Bool) : Rehearsal :=
  let bus := (Bus.allocate? o.settings.eventBufferSize.toNat).getD { capacity := 1 }
  let r := o.stage bus o.settings
  { r with core := { r.core with publishes } }

end Opening
end MediaPlayback
