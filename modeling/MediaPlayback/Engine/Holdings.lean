import MediaPlayback.Engine.World

/-! What the engine holds of the host: audio focus, the wake lock and one output session. Focus and
wake lock are asked for only when they are not held and given back only when they are, and a session
becomes the live one only after the previous one was unloaded. A host that fails is noted in the log
and does not keep the engine from going on. -/

namespace MediaPlayback.World

variable {σ L : Type} [Surroundings σ L]

/-- Asks for audio focus unless it is held. The answer says whether it is held afterwards. -/
def acquireFocus (w : World σ L) : Bool × World σ L :=
  if w.engine.hasFocus then (true, w)
  else
    match w.call .requestFocus with
    | (.ok .granted, w) =>
      (true, { w with engine := { w.engine with hasFocus := true } }.log .resources .debug
        "Audio focus acquired" [])
    | (.ok .denied, w) => (false, w.log .resources .debug "Audio focus denied" [])
    | (.error e, w) =>
      (false, w.log .resources .warn "Audio focus request failed; treating as denied"
        [("error", e.message)])

/-- Gives audio focus back if it is held. -/
def releaseFocus (w : World σ L) : World σ L :=
  if w.engine.hasFocus then
    match { w with engine := { w.engine with hasFocus := false } }.call .abandonFocus with
    | (.ok _, w) => w
    | (.error e, w) =>
      w.log .resources .warn "Failed to abandon audio focus" [("error", e.message)]
  else w

/-- Takes the wake lock unless it is held. -/
def acquireWakeLock (w : World σ L) : World σ L :=
  if w.engine.holdsWakeLock then w
  else
    match w.call (.acquireWakeLock wakeLockTag w.settings.wakeLockTimeout) with
    | (.ok _, w) =>
      { w with engine := { w.engine with holdsWakeLock := true } }.log .resources .debug
        "Wake token acquired" []
    | (.error e, w) =>
      w.log .resources .warn "Failed to acquire wake token" [("error", e.message)]

/-- Gives the wake lock back if it is held. -/
def releaseWakeLock (w : World σ L) : World σ L :=
  if w.engine.holdsWakeLock then
    match { w with engine := { w.engine with holdsWakeLock := false } }.call
      (.releaseWakeLock wakeLockTag) with
    | (.ok _, w) => w
    | (.error e, w) =>
      w.log .resources .warn "Failed to release wake token" [("error", e.message)]
  else w

/-- Whether the screen is on; a screen that cannot be read counts as off. -/
def screenOn (w : World σ L) : Bool × World σ L :=
  match w.call .isScreenOn with
  | (.ok on, w) => (on, w)
  | (.error e, w) =>
    (false, w.log .resources .warn "Failed to read screen state" [("error", e.message)])

def unload (w : World σ L) (span : Option String) (session : SessionId) : World σ L :=
  match w.call (.unload session) with
  | (.ok _, w) => w
  | (.error e, w) =>
    w.logWithin span .resources .warn "Failed to unload output primitive"
      [("session", session.text), ("error", e.message)]

/-- Unloads the live session, if there is one. -/
def destroyOutput (w : World σ L) (span : Option String) : World σ L :=
  match w.engine.live with
  | none => w
  | some session =>
    ({ w with engine := { w.engine with live := none } }.unload span session).logWithin span
      .resources .debug "Output primitive destroyed" [("session", session.text)]

/-- Makes a session the live one, in place of the one before. -/
def adopt (w : World σ L) (session : SessionId) : World σ L :=
  if w.engine.live = some session then w
  else
    let w := w.destroyOutput none
    { w with engine := { w.engine with live := some session } }.record (.adopted session)

/-- Unloads a session that came too late, unless it is the live one. -/
def discard (w : World σ L) (session : SessionId) : World σ L :=
  if w.engine.live = some session then w else w.unload none session

/-- The failure of an operation on a session. -/
def outputFailure (operation : String) (e : HostError) : PlaybackError :=
  .playbackFailed (operation ++ ": " ++ e.message)

def playSession (w : World σ L) (session : SessionId) : Except PlaybackError Unit × World σ L :=
  let (result, w) := w.call (.play session)
  (result.mapError (outputFailure "play"), w)

def pauseSession (w : World σ L) (session : SessionId) : Except PlaybackError Unit × World σ L :=
  let (result, w) := w.call (.pause session)
  (result.mapError (outputFailure "pause"), w)

def seekSession (w : World σ L) (session : SessionId) (position : Duration) :
    Except PlaybackError Unit × World σ L :=
  let (result, w) := w.call (.seek session position)
  (result.mapError (outputFailure "seek"), w)

/-- The position of a session, if the host knows it. -/
def sessionPosition (w : World σ L) (session : SessionId) : Option Duration × World σ L :=
  match w.call (.position session) with
  | (.ok position, w) => (some position, w)
  | (.error e, w) =>
    (none, w.log .resources .debug "Position unavailable"
      [("session", session.text), ("error", e.message)])

/-- Gives everything back. -/
def releaseAll (w : World σ L) : World σ L :=
  ((w.destroyOutput none).releaseFocus).releaseWakeLock

end MediaPlayback.World
