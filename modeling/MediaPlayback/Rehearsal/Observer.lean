import MediaPlayback.Rehearsal.Basic

/-! The observer of a rehearsal. It looks from time to time and sees what happened since it looked
last: the calls that reached the scripted part of the host and what listeners were told, the events
that it reads from the bus, and the log. -/

namespace MediaPlayback

/-- Something that the scripted host or a listener takes part in. -/
inductive Act where
  | called (call : HostCall)
  | prepares (output : OutputRequest)
  | told (listener : String) (notice : Notice)
deriving DecidableEq, Repr

/-- What the observer sees. -/
structure Glance where
  acts : List Act
  events : List (Received CoreEvent)
  log : List LogRecord

namespace Rehearsal

/-- What the scripted host or a listener has to do with an effect. Silent listeners take no part. -/
def act? (h : ScriptedHost) : Effect Actor → Option Act
  | .called call _ => if h.sees call then some (.called call) else none
  | .prepares output => some (.prepares output)
  | .notified _ listener notice =>
    if listener.kind = .silent then none else some (.told listener.name notice)
  | _ => none

/-- The log entries that come with an effect. The desktop, if there is one, writes its own. -/
def entries (h : ScriptedHost) (desktop : Desktop) : Effect Actor → Desktop × List LogRecord
  | .called call _ => if h.desktop then desktop.perform call else (desktop, [])
  | .logged entry => (desktop, [entry])
  | _ => (desktop, [])

/-- The log entries of effects in order, behind the first `skipped` effects. -/
def journal (h : ScriptedHost) : Nat → Desktop → List (Effect Actor) → List LogRecord
  | _, _, [] => []
  | skipped, desktop, effect :: rest =>
    let (desktop, written) := entries h desktop effect
    match skipped with
    | 0 => written ++ journal h 0 desktop rest
    | skipped + 1 => journal h skipped desktop rest

/-- The log entries behind the first `skipped` effects of a history. Only a desktop's entries depend
on what went before. -/
def journalOf (h : ScriptedHost) (skipped : Nat) (history : List (Effect Actor)) :
    List LogRecord :=
  if h.desktop then journal h skipped {} history else journal h 0 {} (history.drop skipped)

/-- Reads the bus until nothing is left, for at most so many times. -/
def drain : Nat → Bus CoreEvent → Receiver → List (Received CoreEvent) × Receiver
  | 0, _, receiver => ([], receiver)
  | steps + 1, bus, receiver =>
    match receiver.tryRecv bus with
    | (.empty, receiver) => ([], receiver)
    | (.closed, receiver) => ([.closed], receiver)
    | (received, receiver) =>
      let (rest, receiver) := drain steps bus receiver
      (received :: rest, receiver)

def announced (effects : List (Effect Actor)) : List CoreEvent :=
  effects.filterMap fun
    | .emitted event => some event
    | _ => none

/-- The observer looks. -/
def observe (r : Rehearsal) : Glance × Rehearsal :=
  let history := r.world.history
  let effects := history.drop r.seen
  let events := announced effects
  let bus := events.foldl Bus.emit r.bus
  let (received, receiver) := drain (events.length + 2) bus r.receiver
  ({ acts := effects.filterMap (act? r.host)
     events := received
     log := journalOf r.host r.seen history },
    { r with bus, receiver, seen := history.length })

end Rehearsal
end MediaPlayback
