import MediaPlayback.Core.Basic

/-! How lifecycle declarations reach the followers of the signal: first every follower, in the order
in which they were registered, and then the subscribers of the bus. -/

namespace MediaPlayback

def LifecycleEvent.notice : LifecycleEvent → Notice
  | .becameForeground => .becameForeground
  | .becameBackground => .becameBackground

/-- Writes what the signal has to say to the log. -/
def World.logSignal {σ L : Type} (w : World σ L) (entries : List (LogLevel × String)) : World σ L :=
  entries.foldl (fun w (level, message) => w.log .lifecycle level message []) w

namespace Core

variable {σ L : Type} [Surroundings σ L]

/-- How a follower reacts to a declaration. The engine does nothing at once. -/
def follow (event : LifecycleEvent) (r : Registry (Follower L)) (id : ListenerId) :
    Follower L → σ → Reaction (Follower L) Command × σ
  | .engine, outside => ({}, outside)
  | .listener listener, outside =>
    let (reaction, outside) := Surroundings.react outside r.next id listener event.notice
    ({ edits := reaction.edits.map (Edit.map .listener)
       posts := reaction.posts
       breakdown := reaction.breakdown }, outside)

/-- Notes what a follower did, and delivers what it posted. The engine gets a message. -/
def recordFollower (event : LifecycleEvent) (c : Core σ L) (told : Told (Follower L) Command) :
    Core σ L :=
  match told.listener with
  | .engine => c.postWeakly (.lifecycle event)
  | .listener listener =>
    let world := World.recordTold event.notice c.world
      ⟨told.id, listener, told.posts, told.breakdown⟩
    collect { c with world }

/-- Tells every follower of a declaration and announces it. -/
def declare (c : Core σ L) (event : LifecycleEvent) : Core σ L :=
  let (told, followers, outside) := c.followers.notify (follow event) c.world.outside
  let c := { c with followers, world := { c.world with outside } }
  let c := told.foldl (recordFollower event) c
  if c.publishes then { c with world := c.world.record (.emitted (.lifecycle event)) } else c

/-- Takes over what an operation on the signal leads to. -/
def absorb (c : Core σ L) (outcome : Signal.Outcome) : Core σ L :=
  let c := { c with signal := outcome.signal, world := c.world.logSignal outcome.log }
  match outcome.declared with
  | none => c
  | some event => c.declare event

/-- The host reports that the app went out of sight. -/
def rawBackground (c : Core σ L) : Core σ L := c.absorb (c.signal.rawBackground c.now)

/-- The host reports that the app went out of sight, and no clock runs. -/
def rawBackgroundAtOnce (c : Core σ L) : Core σ L := c.absorb c.signal.rawBackgroundAtOnce

/-- The host reports that the app came back. -/
def rawForeground (c : Core σ L) : Core σ L := c.absorb c.signal.rawForeground

/-- The next departure is not to be declared. -/
def ignoreNextBackground (c : Core σ L) : Core σ L := c.absorb c.signal.ignoreNextBackground

/-- Drops a declaration that waits. -/
def shutdownSignal (c : Core σ L) : Core σ L := c.absorb c.signal.shutdown

/-- The delay of a generation is over. -/
def expire (c : Core σ L) (generation : Nat) : Core σ L := c.absorb (c.signal.expire generation)

/-- The host's app state is what the signal gets to hear. -/
def observe (c : Core σ L) (state : AppState) : Core σ L :=
  if state.isForeground then c.rawForeground else c.rawBackground

/-- Reads the host's app state. -/
def readAppState (c : Core σ L) : Core σ L :=
  match c.world.call .appState with
  | (.ok state, world) =>
    let c := { c with world }
    if state.isForeground then c else c.rawBackground
  | (.error e, world) =>
    { c with
      world := world.log .lifecycle .warn "Failed to read initial lifecycle state"
        [("error", e.message)] }

/-- Subscribes to the changes of the host's app state. The answer says whether they will come. -/
def subscribeAppState (c : Core σ L) : Bool × Core σ L :=
  match c.world.call .subscribeAppState with
  | (.ok _, world) => (true, { c with world })
  | (.error e, world) =>
    (false, { c with
      world := world.log .lifecycle .warn "Lifecycle changes unavailable"
        [("error", e.message)] })

/-- Begins to follow the host's app state. The answer says whether its changes will come. -/
def attach (c : Core σ L) : Bool × Core σ L := c.readAppState.subscribeAppState

end Core
end MediaPlayback
