import MediaPlayback.Core.Clock
import MediaPlayback.Event.Bus
import MediaPlayback.Rehearsal.Host
import MediaPlayback.Rehearsal.Shelf
import MediaPlayback.Service

/-! A rehearsal: a playback core with a scripted host, on a clock that moves only when it is told to.
After everything that is done to it a rehearsal settles: the engine handles its messages, then the
reports of the host are taken in, then files are prepared, until nothing is left to do. -/

namespace MediaPlayback

structure Rehearsal where
  core : Core ScriptedHost Actor
  shelf : Shelf := []
  bus : Bus CoreEvent
  /-- The observer's place on the bus. -/
  receiver : Receiver
  /-- How much of the trace the observer has seen. -/
  seen : Nat := 0
  /-- The numbers of listeners by the names that they were registered under. -/
  names : List (String × ListenerId) := []
  /-- Whether the core belongs to a service. -/
  service : Bool := false
  /-- Whether the service has an attachment store. -/
  hasStore : Bool := true
  /-- Whether timers run. -/
  hasClock : Bool := true
  /-- Whether the signal follows the host's app state. -/
  following : Bool := false
  /-- Whether the handle was given up. -/
  dropped : Bool := false

namespace Rehearsal

def world (r : Rehearsal) : ScriptedWorld := r.core.world

def host (r : Rehearsal) : ScriptedHost := r.core.world.outside

def setWorld (r : Rehearsal) (world : ScriptedWorld) : Rehearsal :=
  { r with core := { r.core with world } }

def setHost (r : Rehearsal) (outside : ScriptedHost) : Rehearsal :=
  r.setWorld { r.core.world with outside }

/-- The signal begins to follow the host's app state, unless the host refuses. -/
def beginFollowing (r : Rehearsal) : Rehearsal :=
  let (following, core) := r.core.attach
  { r with core, following := r.following || following }

/-- Writes an entry for those who look for faults. -/
def note (r : Rehearsal) (source : LogSource) (message : String) : Rehearsal :=
  r.setWorld (r.world.log source .debug message [])

/-- Takes in what the audio output reports. -/
def takeOutputs (r : Rehearsal) : Rehearsal :=
  let feed := r.host.outputs
  let gone := r.setHost { r.host with outputs := feed.drop }
  if r.core.phase = .ended then gone
  else
    let post (c : Core ScriptedHost Actor) (report : OutputEvent) := c.postWeakly (.output report)
    if feed.closed || !r.core.isHeld then
      { gone with core := feed.waiting.foldl post gone.core }.note .engine
        "Adapter event stream closed"
    else
      let r := r.setHost { r.host with outputs := { feed with waiting := [] } }
      { r with core := feed.waiting.foldl post r.core }

/-- Takes in what happened to the audio focus. -/
def takeFocus (r : Rehearsal) : Rehearsal :=
  let feed := r.host.focus
  let gone := r.setHost { r.host with focus := feed.drop }
  if r.core.phase = .ended then gone
  else
    let post (c : Core ScriptedHost Actor) (report : FocusChange) := c.postWeakly (.focus report)
    if feed.closed || !r.core.isHeld then
      { gone with core := feed.waiting.foldl post gone.core }.note .engine
        "Focus change stream closed"
    else
      let r := r.setHost { r.host with focus := { feed with waiting := [] } }
      { r with core := feed.waiting.foldl post r.core }

def takeAppStates (r : Rehearsal) : Rehearsal :=
  let feed := r.host.appStates
  let r := r.setHost { r.host with appStates := { feed with waiting := [] } }
  let r := { r with core := feed.waiting.foldl Core.observe r.core }
  if feed.closed then
    { r.setHost { r.host with appStates := feed.drop } with following := false }.note .lifecycle
      "Lifecycle change stream closed"
  else r

/-- Prepares the file of one prepare that is under way, if it is admitted. -/
def prepareOne (r : Rehearsal) (flight : Flight) : Rehearsal :=
  let path := flight.task.output.path.text
  match r.host.admit? path with
  | none => r
  | some host =>
    let (result, host) := host.prepare path
    let r := r.setHost host
    { r with core := r.core.land flight.task.request result }

/-- Asks the host for every session that it was not asked for yet, and prepares all files that are
admitted, in the order in which they were started. -/
def prepareAll (r : Rehearsal) : Rehearsal :=
  r.core.flights.foldl
    (fun r flight =>
      let r := if flight.begun then r else { r with core := r.core.beginFlight }
      r.prepareOne flight) r

def canPrepare (r : Rehearsal) : Bool :=
  r.core.flights.any fun flight =>
    !flight.begun || (r.host.admit? flight.task.output.path.text).isSome

def isDue (r : Rehearsal) : Bool := r.core.signal.pending.any (·.due ≤ r.core.now)

/-- The next thing that is to be done, if there is one. -/
def next? (r : Rehearsal) : Option Rehearsal :=
  if r.core.phase = .running && !r.core.mailbox.isEmpty then
    some { r with core := r.core.takeMessage }
  else if r.host.outputs.isReady || (r.core.phase = .ended && r.host.outputs.claimed &&
      !r.host.outputs.dropped) then some r.takeOutputs
  else if r.host.focus.isReady || (r.core.phase = .ended && r.host.focus.claimed &&
      !r.host.focus.dropped) then some r.takeFocus
  else if r.following && r.host.appStates.isReady then some r.takeAppStates
  else if r.core.phase = .running && !r.core.isHeld then
    some { r with core := r.core.endUnlessHeld }
  else if r.canPrepare then some r.prepareAll
  else if r.isDue then some { r with core := r.core.expireIfDue }
  else none

/-- Goes on until nothing is left to do, for at most so many steps. -/
def settleWithin : Nat → Rehearsal → Rehearsal
  | 0, r => r
  | steps + 1, r =>
    match r.next? with
    | none => r
    | some r => settleWithin steps r

/-- More steps than a rehearsal ever takes to settle. -/
def patience : Nat := 1000000

def settle (r : Rehearsal) : Rehearsal := settleWithin patience r

/-- Lets timers fire up to a moment, in the order in which they are due, for at most so many
times. -/
def advanceWithin : Nat → Duration → Rehearsal → Rehearsal
  | 0, _, r => r
  | steps + 1, until_, r =>
    match r.core.nextDue? with
    | none => r
    | some due =>
      if due ≤ until_ then
        let core := { r.core with now := if due ≤ r.core.now then r.core.now else due }
        advanceWithin steps until_ { r with core := core.beatIfDue.expireIfDue }.settle
      else r

/-- Moves the clock forward. -/
def advance (r : Rehearsal) (d : Duration) : Rehearsal :=
  let until_ := r.core.now + d
  let beats := match r.core.ticker with
    | some ticker => d.nanos / ticker.period.nanos
    | none => 0
  let r := advanceWithin (beats + 3) until_ r
  { r with core := { r.core with now := until_ } }.settle

end Rehearsal
end MediaPlayback
