import MediaPlayback.Engine.Holdings
import MediaPlayback.Engine.Presenter

/-! The transitions between the engine's modes that its messages are made of: starting an item,
beginning and resuming playback, pausing, stopping, failing, and resetting. -/

namespace MediaPlayback

/-- The request that starts an item. What replaces a live item goes on reporting a state that is not
stopped. -/
def Engine.startRequest (e : Engine) (autoplay : Bool) (seekTo : Option Duration) :
    PrepareRequest :=
  let request : PrepareRequest :=
    { id := e.lastRequest + 1, autoplay, seekTo, reported := e.mode.reported }
  if request.reported = .stopped then request
  else if autoplay then request.resume else request.hold

namespace World

variable {σ L : Type} [Surroundings σ L]

/-- Announces a failure that ended playback. -/
def emitFailure (w : World σ L) (item : Item) (failure : PlaybackError) : World σ L :=
  w.emit (.error (some item.path.text) failure.message false)

/-- Announces that the host refused audio focus for an item. -/
def denyFocus (w : World σ L) (item : Item) : World σ L :=
  (w.log .engine .warn "Not starting playback"
    [("error", (PlaybackError.focusDenied item.path.text).message)]).emit
    (.focusDenied item.path.text)

/-- Ends playback and leaves the cursor where it is. -/
def stop (w : World σ L) : World σ L :=
  ((((w.setMode .idle).setFocusPaused false).destroyOutput none).releaseFocus)

/-- Reports a failure of the live session and stops. -/
def fail (w : World σ L) (item : Item) (failure : PlaybackError) : World σ L :=
  ((w.log .engine .error "Output primitive failed; stopping"
    [("error", failure.message)]).emitFailure item failure).stop

/-- Ends playback, gives everything back and drops the playlist. -/
def reset (w : World σ L) : World σ L :=
  let w := (((w.setMode .idle).setFocusPaused false).releaseAll)
  (w.setCursor w.engine.cursor.reset).hideNotification

/-- The activity during which the live session makes way for the next one. -/
def replacing : Option String := some "create_output_primitive"

/-- Unloads the live session and starts to prepare an item. -/
def start (w : World σ L) (item : Item) (autoplay : Bool) (seekTo : Option Duration) :
    World σ L :=
  let request := w.engine.startRequest autoplay seekTo
  let w := { w with
    engine := { w.engine with focusPaused := false, lastRequest := request.id } }
  let w := w.log .engine .debug "Preparing output primitive"
    [("request_id", toString request.id), ("file", baseName item.path.text),
      ("autoplay", toString autoplay)]
  let task : PrepareTask := ⟨request.id, item, w.catalog.outputRequest item⟩
  let w := (w.destroyOutput replacing).record (.started task)
  { w with tasks := w.tasks ++ [task] }.setMode (.preparing item request)

/-- Plays a session that was just prepared. Without audio focus it is given up. -/
def begin (w : World σ L) (item : Item) (session : SessionId) : World σ L :=
  match w.acquireFocus with
  | (false, w) => ((w.denyFocus item).destroyOutput none).setMode .idle
  | (true, w) =>
    match w.playSession session with
    | (.ok _, w) => w.setMode (.playing item session)
    | (.error e, w) => w.fail item e

/-- Plays a paused session. Without audio focus it stays paused. -/
def resume (w : World σ L) (item : Item) (session : SessionId) : World σ L :=
  match w.acquireFocus with
  | (false, w) => (w.denyFocus item).setMode (.paused item session)
  | (true, w) =>
    match w.playSession session with
    | (.ok _, w) => w.setMode (.playing item session)
    | (.error e, w) => w.fail item e

/-- Pauses what is playing; an item that is being prepared will be paused then. -/
def pause (w : World σ L) : World σ L :=
  match w.engine.mode with
  | .playing item session =>
    match w.pauseSession session with
    | (.ok _, w) => w.setMode (.paused item session)
    | (.error e, w) => w.fail item e
  | .preparing item request => w.setMode (.preparing item request.hold)
  | _ => w

/-- Moves the cursor to an index that it gave. -/
def moveCursor (w : World σ L) (index : Nat) : World σ L :=
  match w.engine.cursor.setIndex index with
  | .ok cursor => w.setCursor cursor
  | .error e => w.log .engine .warn "Failed to move cursor" [("error", e.message)]

/-- Goes on to the next or back to the previous item. While nothing is active only the cursor
moves; beyond the end of the playlist everything is reset. -/
def navigate (w : World σ L) (ahead : Bool) : World σ L :=
  let (next, cursor) :=
    if ahead then w.engine.cursor.forward else w.engine.cursor.backward
  let w := w.setCursor cursor
  if w.engine.mode = .idle then w
  else
    match next with
    | some item => w.start item true none
    | none => (w.log .engine .debug "End of playlist" [("forward", toString ahead)]).reset

end World
end MediaPlayback
