import MediaPlayback.Rehearsal.Direction
import MediaPlayback.Rehearsal.Observer
import MediaPlayback.Rehearsal.Order

/-! The steps of a rehearsal: what its users, its host, its listeners and its clock do, and the
answer that each step gives at once. After every step the rehearsal settles. -/

namespace MediaPlayback

inductive Step where
  -- the users of the engine
  | order (order : Order)
  /-- Orders that are given before the engine gets to any of them. -/
  | batch (orders : List (Option Order))
  | setIndex (index : Nat)
  | progress
  | queries
  | shutdown
  /-- The users give up all that keeps the engine running. -/
  | drop
  -- listeners of the engine or of the signal
  | addListener (actor : Actor)
  | removeListener (name : String)
  -- the host and the clock
  | advance (d : Duration)
  | direct (direction : Direction)
  | permit (path : String) (count : Nat)
  | complete (session : Option SessionId)
  | outputFails (session : Option SessionId) (message : String)
  | focus (change : FocusChange)
  | observed (state : AppState)
  | closeFeeds
  | closeAppStates
  -- the signal
  | rawBackground
  | rawForeground
  | ignoreNext
  | shutdownSignal
  | attach
  -- the service
  | resolveItem (transferId : String)
  | playAttachment (transferId : String)
  | attachmentStore
  | serviceShutdown
  | serviceInfo

inductive Answer where
  | done
  | nothing
  /-- Whether a report of the host can still arrive. -/
  | arrived (open_ : Bool)
  | refused (error : PlaybackError)
  | serviceRefused (error : ServiceError)
  /-- The step is not understood. -/
  | unknown
  /-- The users have given the engine up. -/
  | dropped
  | each (answers : List Answer)
  | position (d : Option Duration)
  | survey (s : Option Snapshot) (running : Bool)
  | registered (id : ListenerId)
  | removed (wasThere : Bool)
  | noSuchListener
  /-- An item, with what was known about it when the answer was given. -/
  | item (item : Item) (known : Catalog)
  | service (subscribers : Nat) (notification : NotificationId)
  /-- The step broke off, and the rehearsal with it. -/
  | crashed

namespace Rehearsal

/-- Posts a message for the users and settles; `reply?` picks the answer that is waited for. -/
def ask {α : Type} (r : Rehearsal) (m : Message) (reply? : Reply → Option α) :
    Option α × Rehearsal :=
  if r.core.phase = .running then
    let seen := r.world.trace.length
    let r := { r with core := r.core.post m }.settle
    let effects := r.world.trace.take (r.world.trace.length - seen)
    (effects.findSome? fun
      | .replied reply => reply? reply
      | _ => none, r)
  else (none, r)

/-- The answer that was waited for, or the report that the engine has ended. -/
def answerOr {α : Type} (answer : α → Answer) : Option α → Answer
  | some a => answer a
  | none => .refused .engineShutdown

/-- A step of the users that needs the engine's handle. -/
def withHandle (r : Rehearsal) (act : Rehearsal → Answer × Rehearsal) : Answer × Rehearsal :=
  if r.dropped then (.dropped, r) else act r

def give (r : Rehearsal) (order : Order) : Answer × Rehearsal :=
  let (m, catalog) := r.world.catalog.fulfil r.shelf order
  let r := r.setWorld { r.world with catalog }
  if r.core.phase = .running then (.done, { r with core := r.core.post m })
  else (.refused .engineShutdown, r)

/-- Gives orders one after the other. -/
def giveAll (r : Rehearsal) : List (Option Order) → List Answer × Rehearsal
  | [] => ([], r)
  | order :: rest =>
    let (answer, r) : Answer × Rehearsal := match order with
      | none => (.unknown, r)
      | some order => r.withHandle (·.give order)
    let (answers, r) := r.giveAll rest
    (answer :: answers, r)

/-- Asks for as many snapshots as there are questions, and gives the last one. -/
def askSnapshots : Nat → Rehearsal → Option Snapshot × Rehearsal
  | 0, r => (none, r)
  | n + 1, r =>
    let (snapshot, r) := r.ask .snapshot fun
      | .snapshot s => some s
      | _ => none
    if n = 0 then (snapshot, r) else askSnapshots n r

/-- How many questions about the engine there are that a snapshot answers. -/
def questions : Nat := 10

/-- A listener is registered with the engine, or with the signal where there is no engine. -/
def register (r : Rehearsal) (actor : Actor) : ListenerId × Rehearsal :=
  let (id, r) :=
    if r.core.phase = .absent then
      let (id, followers) := r.core.followers.add (.listener actor)
      (id, { r with core := { r.core with followers } })
    else
      let (id, listeners) := r.world.listeners.add actor
      (id, r.setWorld { r.world with listeners })
  (id, { r with names := (actor.name, id) :: r.names })

/-- A registration is taken back. The answer says whether it was there. -/
def unregister (r : Rehearsal) (id : ListenerId) : Bool × Rehearsal :=
  if r.core.phase = .absent then
    (r.core.followers.isRegistered id,
      { r with core := { r.core with followers := r.core.followers.remove id } })
  else
    (r.world.listeners.isRegistered id,
      r.setWorld { r.world with listeners := r.world.listeners.remove id })

/-- The signal is no longer told of the host's app state, and drops what waits. -/
def unfollow (r : Rehearsal) : Rehearsal :=
  let host := r.host
  let r :=
    if r.following && host.appStates.claimed then
      r.setHost { host with appStates := host.appStates.drop }
    else r
  { r with core := r.core.shutdownSignal, following := false }

/-- The session that a report is about if none is named: the one that was played last. -/
def reported (r : Rehearsal) (session : Option SessionId) : SessionId :=
  session.getD r.host.lastPlayed

/-- The host sends a report of its audio output. -/
def sendOutput (r : Rehearsal) (event : OutputEvent) : Answer × Rehearsal :=
  (.arrived r.host.outputs.isOpen, r.setHost { r.host with outputs := r.host.outputs.send event })

/-- The app goes out of sight, as far as the signal gets to know. -/
def goBackground (r : Rehearsal) : Rehearsal :=
  { r with core := if r.hasClock then r.core.rawBackground else r.core.rawBackgroundAtOnce }

/-- A step that needs a service. -/
def withService (r : Rehearsal) (act : Rehearsal → Answer × Rehearsal) : Answer × Rehearsal :=
  if r.service then r.withHandle act else (.unknown, r)

/-- A step that needs an attachment store. -/
def withStore (r : Rehearsal) (act : Rehearsal → Answer × Rehearsal) : Answer × Rehearsal :=
  r.withService fun r =>
    if r.hasStore then act r else (.serviceRefused .noAttachmentStore, r)

/-- The answer about an item that was resolved. -/
def resolved (r : Rehearsal) (result : Except ServiceError Item × Core ScriptedHost Actor) :
    Answer × Rehearsal :=
  let r := { r with core := result.2 }
  match result.1 with
  | .ok item => (.item item r.world.catalog, r)
  | .error e => (.serviceRefused e, r)

/-- The users give up the engine, and with it the service. -/
def giveUp (r : Rehearsal) : Rehearsal :=
  if r.dropped then r
  else
    let r := if r.service then r.unfollow else r
    { r with dropped := true, core := { r.core with handles := 0 } }

/-- Does a step, without settling. -/
def act (r : Rehearsal) : Step → Answer × Rehearsal
  | .order order => r.withHandle (·.give order)
  | .batch orders =>
    let (answers, r) := r.giveAll orders
    (.each answers, r)
  | .setIndex index => r.withHandle fun r =>
    let (result, r) := r.ask (.setIndex index) fun
      | .index result => some result
      | _ => none
    (match result with
      | some (.ok _) => .done
      | some (.error e) => .refused e
      | none => .refused .engineShutdown, r)
  | .progress => r.withHandle fun r =>
    let (position, r) := r.ask .progress fun
      | .position d => some d
      | _ => none
    (answerOr .position position, r)
  | .queries => r.withHandle fun r =>
    let (snapshot, r) := askSnapshots questions r
    (.survey snapshot (r.core.phase = .running), r)
  | .shutdown => r.withHandle fun r =>
    let (stopped, r) := r.ask .shutdown fun
      | .stopped => some ()
      | _ => none
    (answerOr (fun _ => .done) stopped, r)
  | .drop => (.nothing, r.giveUp)
  | .addListener actor => r.withHandle fun r =>
    let (id, r) := r.register actor
    (.registered id, r)
  | .removeListener name => r.withHandle fun r =>
    match r.names.lookup name with
    | none => (.noSuchListener, r)
    | some id =>
      let (wasThere, r) := r.unregister id
      (.removed wasThere, r)
  | .advance d => (.nothing, r.advance d)
  | .direct direction => (.nothing, r.setHost (r.host.follow direction))
  | .permit path count => (.nothing, r.setHost (r.host.permit path count))
  | .complete session => r.sendOutput (.completed (r.reported session))
  | .outputFails session message => r.sendOutput (.failed (r.reported session) message)
  | .focus change =>
    (.arrived r.host.focus.isOpen, r.setHost { r.host with focus := r.host.focus.send change })
  | .observed state =>
    (.arrived r.host.appStates.isOpen,
      r.setHost { r.host with appStates := r.host.appStates.send state })
  | .closeFeeds =>
    (.nothing, r.setHost { r.host with
      outputs := r.host.outputs.close
      focus := r.host.focus.close
      appStates := r.host.appStates.close })
  | .closeAppStates =>
    (.done, r.setHost { r.host with appStates := r.host.appStates.close })
  | .rawBackground => (.done, r.goBackground)
  | .rawForeground => (.done, { r with core := r.core.rawForeground })
  | .ignoreNext => (.done, { r with core := r.core.ignoreNextBackground })
  | .shutdownSignal => (.done, { r with core := r.core.shutdownSignal })
  | .attach =>
    if r.hasClock then (.done, r.beginFollowing) else (.crashed, r)
  | .resolveItem transferId => r.withStore fun r => r.resolved (r.core.resolveItem transferId)
  | .playAttachment transferId => r.withStore fun r =>
    r.resolved (r.core.playAttachment transferId)
  | .attachmentStore => r.withStore fun r => (.done, r)
  | .serviceShutdown => r.withService fun r =>
    let r := r.unfollow
    let r := { r with core := r.core.post .shutdown }.settle
    (.done, r.setWorld (r.world.log .service .info "Playback core stopped" []))
  | .serviceInfo => r.withService fun r =>
    (.service r.bus.subscribers ⟨r.world.settings.notificationId⟩, r)

/-- Does a step and settles. -/
def perform (r : Rehearsal) (step : Step) : Answer × Rehearsal :=
  let (answer, r) := r.act step
  (answer, r.settle)

end Rehearsal
end MediaPlayback
