import MediaPlayback.Engine.Turn
import MediaPlayback.Lifecycle.Signal

/-! A playback core: the engine with its mailbox, the prepares that are under way, and the lifecycle
signal that it follows. Everything that reaches the engine goes through the mailbox. The engine ends
at a shutdown message, or when nobody can send it messages any more and it has handled all; what
reaches it after its end is lost, except that a session prepared too late is unloaded. -/

namespace MediaPlayback

/-- Whether the engine runs. -/
inductive Phase where
  /-- There is no engine. -/
  | absent
  | running
  | ended
deriving DecidableEq, Repr, Inhabited

/-- Who is told of lifecycle declarations: the engine, and other listeners. -/
inductive Follower (L : Type) where
  | engine
  | listener (listener : L)
deriving DecidableEq, Repr

/-- A prepare that is under way. -/
structure Flight where
  task : PrepareTask
  /-- Whether the host was asked. -/
  begun : Bool := false
deriving DecidableEq, Repr

/-- The clock of position reports. -/
structure Ticker where
  next : Duration
  period : Duration
deriving DecidableEq, Repr

/-- A playback core and all that it acts on. -/
structure Core (σ L : Type) where
  world : World σ L
  phase : Phase := .absent
  /-- Messages that wait, the first one first. -/
  mailbox : List Message := []
  /-- How many handles are held outside the listeners. -/
  handles : Nat := 0
  flights : List Flight := []
  signal : Signal
  /-- Whether declarations are announced on the bus. -/
  publishes : Bool := true
  followers : Registry (Follower L) := {}
  /-- The engine's place among the followers. -/
  engineFollower : Option ListenerId := none
  now : Duration := .zero
  ticker : Option Ticker := none

namespace Core

variable {σ L : Type}

/-- Delivers a message, if there is an engine that can get it. -/
def post (c : Core σ L) (m : Message) : Core σ L :=
  if c.phase = .running then { c with mailbox := c.mailbox ++ [m] } else c

/-- Takes over what the engine's turn left: messages that listeners posted, and prepares. -/
def collect (c : Core σ L) : Core σ L :=
  let posted := c.world.posted
  let flights := c.world.tasks.map fun task => { task : Flight }
  let c := { c with
    flights := c.flights ++ flights
    world := { c.world with posted := [], tasks := [] } }
  posted.foldl (fun c command => c.post command.1) c

variable [Surroundings σ L]

/-- Whether somebody can still send messages. -/
def isHeld (c : Core σ L) : Bool :=
  0 < c.handles ||
    c.world.listeners.entries.any fun entry => Surroundings.keepsRunning c.world.outside entry.2

/-- Delivers a message of a part that does not keep the engine running. -/
def postWeakly (c : Core σ L) (m : Message) : Core σ L := if c.isHeld then c.post m else c

/-- Starts the engine. -/
def launch (c : Core σ L) (progressInterval : Duration) : Core σ L :=
  let (id, followers) := c.followers.add .engine
  let engine : Engine := { backgrounded := c.signal.background }
  { c with
    world := { c.world with engine }.startUp
    phase := .running
    handles := c.handles + 1
    followers
    engineFollower := some id
    ticker :=
      if progressInterval.isZero then none
      else some ⟨c.now + progressInterval, progressInterval⟩ }

/-- Ends the engine. Messages that wait are lost. -/
def finish (c : Core σ L) : Core σ L :=
  let followers := match c.engineFollower with
    | some id => c.followers.remove id
    | none => c.followers
  collect { c with
    phase := .ended
    mailbox := []
    followers
    engineFollower := none
    ticker := none
    world := c.world.teardown }

/-- The engine takes the next message. -/
def takeMessage (c : Core σ L) : Core σ L :=
  match c.mailbox with
  | [] => c
  | .shutdown :: _ =>
    let world := c.world.log .engine .trace "Engine command" [("command", Message.shutdown.name)]
    let c := { c with world }.finish
    { c with world := c.world.reply .stopped }
  | m :: rest => collect { c with mailbox := rest, world := c.world.turn m }

/-- The engine ends if nothing can reach it any more. -/
def endUnlessHeld (c : Core σ L) : Core σ L := if c.isHeld then c else c.finish

/-- The host is asked for the first session that it was not asked for yet. -/
def beginFlight (c : Core σ L) : Core σ L :=
  match c.flights.findIdx? (! ·.begun) with
  | none => c
  | some i =>
    match c.flights[i]? with
    | none => c
    | some flight =>
      { c with
        flights := c.flights.set i { flight with begun := true }
        world := c.world.record (.prepares flight.task.output) }

/-- A prepare is answered. The answer goes to the engine; if it cannot, a prepared session is
unloaded at once. -/
def land (c : Core σ L) (request : Nat) (result : Except HostError PreparedSession) : Core σ L :=
  match c.flights.find? (·.task.request = request) with
  | none => c
  | some flight =>
    let c := { c with flights := c.flights.filter (·.task.request ≠ request) }
    if c.phase = .running && c.isHeld then c.post (.prepared request flight.task.item result)
    else
      match result with
      | .ok prepared => { c with world := (c.world.call (.unload prepared.session)).2 }
      | .error _ => c

/-- The clock of position reports reached its next beat. -/
def beat (c : Core σ L) : Core σ L :=
  match c.ticker with
  | none => c
  | some ticker =>
    if c.isHeld then
      { c with ticker := some { ticker with next := ticker.next + ticker.period } }.post .tick
    else
      { c with
        ticker := none
        world := c.world.log .progress .debug "Progress poller stopped" [] }

end Core
end MediaPlayback
