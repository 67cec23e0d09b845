import MediaPlayback.Engine.Transition

/-! What the engine does with the reports of the host and of the clock. -/

namespace MediaPlayback.World

variable {σ L : Type} [Surroundings σ L]

/-- Moves a session that was just prepared to where its request asked. -/
def seekPrepared (w : World σ L) (session : SessionId) : Option Duration → World σ L
  | none => w
  | some position =>
    match w.seekSession session position with
    | (.ok _, w) => w
    | (.error e, w) => w.log .engine .warn "Seek after prepare failed" [("error", e.message)]

/-- Takes up what the current request asked for. -/
def settlePrepared (w : World σ L) (request : PrepareRequest) (item : Item) :
    Except HostError PreparedSession → World σ L
  | .error e =>
    let failure := PlaybackError.prepareFailed item.path.text e.message
    (((w.setMode .idle).log .engine .error "Failed to prepare output primitive"
      [("error", failure.message)]).emitFailure item failure).stop
  | .ok prepared =>
    let w := (w.setMode .idle).adopt prepared.session
    let w := match prepared.duration with
      | some d => { w with catalog := w.catalog.recordDuration item d }
      | none => w
    let w := w.seekPrepared prepared.session request.seekTo
    if request.autoplay then w.begin item prepared.session
    else w.setMode (.paused item prepared.session)

/-- Unloads the session of an answer that is not awaited any more. -/
def discardPrepared (w : World σ L) (id : Nat) (result : Except HostError PreparedSession) :
    World σ L :=
  let w := w.log .engine .debug "Discarding superseded prepare" [("request_id", toString id)]
  match result with
  | .ok prepared => w.discard prepared.session
  | .error _ => w

/-- A request to prepare was answered. Only the answer to the current request counts; a session that
comes from an older one is unloaded. -/
def onPrepared (w : World σ L) (id : Nat) (item : Item)
    (result : Except HostError PreparedSession) : World σ L :=
  match w.engine.mode with
  | .preparing _ request =>
    if request.id = id then w.settlePrepared request item result else w.discardPrepared id result
  | _ => w.discardPrepared id result

/-- Plays a session again from its start. -/
def replay (w : World σ L) (session : SessionId) : Except PlaybackError Unit × World σ L :=
  match w.seekSession session .zero with
  | (.ok _, w) => w.playSession session
  | (.error e, w) => (.error e, w)

/-- The live session played to its end. -/
def onCompleted (w : World σ L) (item : Item) (session : SessionId) : World σ L :=
  let w := w.log .engine .debug "Playback completed" [("file", item.fileName)]
  if w.engine.cursor.repeatMode = .item then
    match w.replay session with
    | (.ok _, w) => w.setMode (.playing item session)
    | (.error e, w) =>
      (w.log .engine .debug "Replay on the same primitive failed; recreating"
        [("error", e.message)]).start item true none
  else if w.engine.cursor.canForward then w.navigate true
  else w.reset

/-- The live session reported something. -/
def onLiveOutput (w : World σ L) (item : Item) (session : SessionId) : OutputEvent → World σ L
  | .completed _ => w.onCompleted item session
  | .failed _ message =>
    let failure := PlaybackError.playbackFailed message
    (w.log .engine .error "Output primitive reported an error"
      [("error", failure.message)]).emit (.error (some item.path.text) failure.message true)

/-- A session that is not the live one reported something. -/
def ignoreOutput (w : World σ L) (event : OutputEvent) : World σ L :=
  w.log .engine .debug "Ignoring event for a stale session" [("session", event.session.text)]

/-- A session reported something. Only the live one counts. -/
def onOutput (w : World σ L) (event : OutputEvent) : World σ L :=
  match w.engine.mode with
  | .playing item session | .paused item session =>
    if session = event.session then w.onLiveOutput item session event else w.ignoreOutput event
  | _ => w.ignoreOutput event

def isPlaying (w : World σ L) : Bool := w.engine.mode matches .playing ..

/-- The host took audio focus away or gave it back. A transient loss pauses until it is over, unless
something else is asked for meanwhile. -/
def onFocus (w : World σ L) (change : FocusChange) : World σ L :=
  let w := w.log .engine .debug "Audio focus changed" [("change", change.name)]
  match change with
  | .lost =>
    let w := w.setFocusPaused false
    (if w.isPlaying then w.pause else w).releaseFocus
  | .lostTransient => if w.isPlaying then w.pause.setFocusPaused true else w
  | .gained =>
    if w.engine.focusPaused then
      let w := w.setFocusPaused false
      match w.engine.mode with
      | .paused item session => w.resume item session
      | _ => w
    else w

/-- Brings the notification in line with the active item, or else with the current one. -/
def refreshNotification (w : World σ L) : World σ L :=
  let item := w.engine.mode.item?.or w.engine.cursor.currentItem?
  w.present w.engine.backgrounded w.engine.mode.reported item
    (w.engine.cursor.playlist.map (·.name))

/-- The app moved to the background or to the foreground. -/
def onLifecycle (w : World σ L) : LifecycleEvent → World σ L
  | .becameBackground =>
    let w := { w with engine := { w.engine with backgrounded := true } }
    if w.engine.mode.reported = .stopped then w
    else
      let (on, w) := w.screenOn
      (if on then w.acquireWakeLock else w).refreshNotification
  | .becameForeground =>
    let w := { w with engine := { w.engine with backgrounded := false } }
    w.releaseWakeLock.hideNotification

/-- Announces the position while an item is playing. -/
def onTick (w : World σ L) : World σ L :=
  match w.engine.mode with
  | .playing item session =>
    match w.sessionPosition session with
    | (none, w) => w
    | (some position, w) =>
      w.emit (.positionChanged item.path.text position.millis64
        ((w.catalog.duration? item).elim 0 (·.millis64)))
  | _ => w

end MediaPlayback.World
