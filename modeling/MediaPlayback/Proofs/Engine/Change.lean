import MediaPlayback.Engine.Turn

/-! What each operation of a world changes of the engine's own state. The host's answers decide only
between a few outcomes, which are the same whatever else the host does. -/

namespace MediaPlayback

namespace Engine

/-- The engine after it gave up what it was playing. -/
def stopped (e : Engine) : Engine :=
  { e with mode := .idle, focusPaused := false, live := none, hasFocus := false }

/-- The engine after it gave up everything and dropped the playlist. -/
def cleared (e : Engine) : Engine :=
  { e.stopped with holdsWakeLock := false, cursor := e.cursor.reset, shown := false }

/-- The engine after it started to prepare an item. -/
def started (e : Engine) (item : Item) (autoplay : Bool) (seekTo : Option Duration) : Engine :=
  { e with
    mode := .preparing item (e.startRequest autoplay seekTo)
    focusPaused := false
    live := none
    lastRequest := e.lastRequest + 1 }

/-- The engine after its cursor moved to an index that the cursor gave. -/
def pointed (e : Engine) (index : Nat) : Engine :=
  match e.cursor.setIndex index with
  | .ok cursor => { e with cursor }
  | .error _ => e

/-- The engine after it went on to the next or back to the previous item. -/
def navigated (e : Engine) (ahead : Bool) : Engine :=
  let (next, cursor) := if ahead then e.cursor.forward else e.cursor.backward
  let e := { e with cursor }
  if e.mode = .idle then e
  else
    match next with
    | some item => e.started item true none
    | none => e.cleared

theorem startRequest_id (e : Engine) (autoplay : Bool) (seekTo : Option Duration) :
    (e.startRequest autoplay seekTo).id = e.lastRequest + 1 := by
  unfold startRequest
  dsimp only
  split
  · rfl
  · split <;> rfl

/-- What becomes of a session that was prepared to be played at once. -/
inductive Begins (e : Engine) (item : Item) (session : SessionId) : Engine → Prop where
  | denied (unfocused : e.hasFocus = false) :
    Begins e item session { e with mode := .idle, live := none }
  | played : Begins e item session { e with mode := .playing item session, hasFocus := true }
  | failed : Begins e item session e.stopped

/-- What becomes of a paused session that is to be played. -/
inductive Resumes (e : Engine) (item : Item) (session : SessionId) : Engine → Prop where
  | denied (unfocused : e.hasFocus = false) :
    Resumes e item session { e with mode := .paused item session }
  | played : Resumes e item session { e with mode := .playing item session, hasFocus := true }
  | failed : Resumes e item session e.stopped

/-- What a pause leads to. -/
inductive Pauses (e : Engine) : Engine → Prop where
  | paused {item : Item} {session : SessionId} (playing : e.mode = .playing item session) :
    Pauses e { e with mode := .paused item session }
  | failed {item : Item} {session : SessionId} (playing : e.mode = .playing item session) :
    Pauses e e.stopped
  | held {item : Item} {request : PrepareRequest} (preparing : e.mode = .preparing item request) :
    Pauses e { e with mode := .preparing item request.hold }
  | kept (playing : ∀ item session, e.mode ≠ .playing item session)
    (preparing : ∀ item request, e.mode ≠ .preparing item request) : Pauses e e

end Engine

namespace World

variable {σ L : Type}

@[simp] theorem record_engine (w : World σ L) (effect : Effect L) :
    (w.record effect).engine = w.engine := rfl

@[simp] theorem logWithin_engine (w : World σ L) (span : Option String) (source : LogSource)
    (level : LogLevel) (message : String) (fields : List (String × String)) :
    (w.logWithin span source level message fields).engine = w.engine := rfl

@[simp] theorem log_engine (w : World σ L) (source : LogSource) (level : LogLevel)
    (message : String) (fields : List (String × String)) :
    (w.log source level message fields).engine = w.engine := rfl

@[simp] theorem emit_engine (w : World σ L) (event : PlaybackEvent) :
    (w.emit event).engine = w.engine := rfl

@[simp] theorem reply_engine (w : World σ L) (r : Reply) : (w.reply r).engine = w.engine := rfl

@[simp] theorem setMode_engine (w : World σ L) (mode : Mode) :
    (w.setMode mode).engine = { w.engine with mode } := rfl

@[simp] theorem setCursor_engine (w : World σ L) (cursor : Cursor) :
    (w.setCursor cursor).engine = { w.engine with cursor } := rfl

@[simp] theorem setFocusPaused_engine (w : World σ L) (focusPaused : Bool) :
    (w.setFocusPaused focusPaused).engine = { w.engine with focusPaused } := rfl

@[simp] theorem emitFailure_engine (w : World σ L) (item : Item) (failure : PlaybackError) :
    (w.emitFailure item failure).engine = w.engine := rfl

@[simp] theorem denyFocus_engine (w : World σ L) (item : Item) :
    (w.denyFocus item).engine = w.engine := rfl

theorem moveCursor_engine (w : World σ L) (index : Nat) :
    (w.moveCursor index).engine = w.engine.pointed index := by
  unfold moveCursor Engine.pointed
  split <;> simp [*]

@[simp] theorem recordTold_engine (notice : Notice) (w : World σ L) (told : Told L Command) :
    (recordTold notice w told).engine = w.engine := by
  unfold recordTold
  dsimp only
  split <;> rfl

variable [Surroundings σ L]

/-- A call leaves its result in the trace and changes nothing else inside. -/
theorem exists_call (w : World σ L) (call : HostCall) :
    ∃ (result : call.Result) (outside : σ),
      w.call call = (result, { w with outside, trace := .called call result :: w.trace }) :=
  ⟨_, _, rfl⟩

@[simp] theorem tell_engine (w : World σ L) (notice : Notice) :
    (w.tell notice).engine = w.engine := by
  have fold : ∀ (told : List (Told L Command)) (w : World σ L),
      (told.foldl (recordTold notice) w).engine = w.engine := by
    intro told
    induction told with
    | nil => exact fun _ => rfl
    | cons first rest ih => exact fun w => (ih _).trans (recordTold_engine notice w first)
  exact fold _ _

@[simp] theorem acquireFocus_engine (w : World σ L) :
    w.acquireFocus.2.engine = { w.engine with hasFocus := w.acquireFocus.1 } := by
  unfold acquireFocus
  split
  case isTrue held => simp [← held]
  case isFalse free =>
    obtain ⟨result, outside, h⟩ := w.exists_call .requestFocus
    have unheld : w.engine.hasFocus = false := by simpa using free
    rw [h]
    rcases result with e | (_ | _) <;> simp [← unheld]

/-- Focus that is held is never denied. -/
theorem unfocused_of_denied (w : World σ L) (denied : w.acquireFocus.1 = false) :
    w.engine.hasFocus = false := by
  unfold acquireFocus at denied
  split at denied
  · contradiction
  · simp_all

@[simp] theorem releaseFocus_engine (w : World σ L) :
    w.releaseFocus.engine = { w.engine with hasFocus := false } := by
  unfold releaseFocus
  split
  case isTrue =>
    obtain ⟨result, outside, h⟩ :=
      exists_call { w with engine := { w.engine with hasFocus := false } } .abandonFocus
    rw [h]
    cases result <;> rfl
  case isFalse free =>
    have unheld : w.engine.hasFocus = false := by simpa using free
    simp [← unheld]

theorem acquireWakeLock_engine (w : World σ L) :
    ∃ held, w.acquireWakeLock.engine = { w.engine with holdsWakeLock := held } := by
  unfold acquireWakeLock
  split
  case isTrue => exact ⟨w.engine.holdsWakeLock, rfl⟩
  case isFalse =>
    obtain ⟨result, outside, h⟩ :=
      w.exists_call (.acquireWakeLock wakeLockTag w.settings.wakeLockTimeout)
    rw [h]
    cases result with
    | ok => exact ⟨true, rfl⟩
    | error => exact ⟨w.engine.holdsWakeLock, rfl⟩

@[simp] theorem releaseWakeLock_engine (w : World σ L) :
    w.releaseWakeLock.engine = { w.engine with holdsWakeLock := false } := by
  unfold releaseWakeLock
  split
  case isTrue =>
    obtain ⟨result, outside, h⟩ :=
      exists_call { w with engine := { w.engine with holdsWakeLock := false } }
        (.releaseWakeLock wakeLockTag)
    rw [h]
    cases result <;> rfl
  case isFalse free =>
    have unheld : w.engine.holdsWakeLock = false := by simpa using free
    simp [← unheld]

@[simp] theorem screenOn_engine (w : World σ L) : w.screenOn.2.engine = w.engine := by
  obtain ⟨result, outside, h⟩ := w.exists_call .isScreenOn
  unfold screenOn
  rw [h]
  cases result <;> rfl

@[simp] theorem unload_engine (w : World σ L) (span : Option String) (session : SessionId) :
    (w.unload span session).engine = w.engine := by
  obtain ⟨result, outside, h⟩ := w.exists_call (.unload session)
  unfold unload
  rw [h]
  cases result <;> rfl

@[simp] theorem destroyOutput_engine (w : World σ L) (span : Option String) :
    (w.destroyOutput span).engine = { w.engine with live := none } := by
  unfold destroyOutput
  split
  case h_1 absent => simp [← absent]
  case h_2 => simp

@[simp] theorem adopt_engine (w : World σ L) (session : SessionId) :
    (w.adopt session).engine = { w.engine with live := some session } := by
  unfold adopt
  split
  case isTrue same => simp [← same]
  case isFalse => simp

@[simp] theorem discard_engine (w : World σ L) (session : SessionId) :
    (w.discard session).engine = w.engine := by
  unfold discard
  split <;> simp

@[simp] theorem playSession_engine (w : World σ L) (session : SessionId) :
    (w.playSession session).2.engine = w.engine := rfl

@[simp] theorem pauseSession_engine (w : World σ L) (session : SessionId) :
    (w.pauseSession session).2.engine = w.engine := rfl

@[simp] theorem seekSession_engine (w : World σ L) (session : SessionId) (position : Duration) :
    (w.seekSession session position).2.engine = w.engine := rfl

@[simp] theorem sessionPosition_engine (w : World σ L) (session : SessionId) :
    (w.sessionPosition session).2.engine = w.engine := by
  obtain ⟨result, outside, h⟩ := w.exists_call (.position session)
  unfold sessionPosition
  rw [h]
  cases result <;> rfl

/-- To ask for a position tells nothing about items. -/
@[simp] theorem sessionPosition_catalog (w : World σ L) (session : SessionId) :
    (w.sessionPosition session).2.catalog = w.catalog := by
  obtain ⟨result, outside, h⟩ := w.exists_call (.position session)
  unfold sessionPosition
  rw [h]
  cases result <;> rfl

@[simp] theorem releaseAll_engine (w : World σ L) :
    w.releaseAll.engine =
      { w.engine with live := none, hasFocus := false, holdsWakeLock := false } := by
  simp [releaseAll]

@[simp] theorem hideNotification_engine (w : World σ L) :
    w.hideNotification.engine = { w.engine with shown := false } := by
  unfold hideNotification
  split
  case isTrue =>
    obtain ⟨result, outside, h⟩ := w.exists_call (.cancelNotification w.notificationId)
    rw [h]
    cases result <;> rfl
  case isFalse hidden =>
    have unshown : w.engine.shown = false := by simpa using hidden
    simp [← unshown]

theorem showNotification_engine (w : World σ L) (content : NotificationContent)
    (state : PlaybackState) :
    ∃ shown, (w.showNotification content state).engine = { w.engine with shown } := by
  obtain ⟨result, outside, h⟩ := w.exists_call (.showNotification w.notificationId content)
  unfold showNotification
  rw [h]
  cases result with
  | ok => exact ⟨true, rfl⟩
  | error => exact ⟨w.engine.shown, rfl⟩

theorem refreshNotification_engine (w : World σ L) :
    ∃ shown, w.refreshNotification.engine = { w.engine with shown } := by
  unfold refreshNotification present
  dsimp only
  split
  · split
    · exact showNotification_engine w _ _
    · exact ⟨false, hideNotification_engine w⟩
  · exact ⟨false, hideNotification_engine w⟩

@[simp] theorem stop_engine (w : World σ L) : w.stop.engine = w.engine.stopped := by
  simp [stop, Engine.stopped]

@[simp] theorem fail_engine (w : World σ L) (item : Item) (failure : PlaybackError) :
    (w.fail item failure).engine = w.engine.stopped := by
  simp [fail]

@[simp] theorem reset_engine (w : World σ L) : w.reset.engine = w.engine.cleared := by
  simp [reset, Engine.cleared, Engine.stopped]

@[simp] theorem start_engine (w : World σ L) (item : Item) (autoplay : Bool)
    (seekTo : Option Duration) :
    (w.start item autoplay seekTo).engine = w.engine.started item autoplay seekTo := by
  unfold start Engine.started
  dsimp only
  rw [setMode_engine]
  simp only [record_engine, destroyOutput_engine, log_engine]
  rw [Engine.startRequest_id]

theorem navigate_engine (w : World σ L) (ahead : Bool) :
    (w.navigate ahead).engine = w.engine.navigated ahead := by
  unfold navigate Engine.navigated
  dsimp only
  by_cases idle : w.engine.mode = .idle
  · simp [idle]
  · simp only [setCursor_engine, idle, if_false]
    generalize (if ahead then w.engine.cursor.forward else w.engine.cursor.backward) = moved
    rcases moved with ⟨_ | item, cursor⟩ <;> simp

/-- What asking for focus and then playing a session comes to: the host denies focus, plays, or
fails. -/
theorem acquireFocus_playSession (w : World σ L) (session : SessionId) :
    (∃ w', w.acquireFocus = (false, w') ∧ w.engine.hasFocus = false ∧ w'.engine = w.engine) ∨
    ∃ w' result w'', w.acquireFocus = (true, w') ∧ w'.playSession session = (result, w'') ∧
      w''.engine = { w.engine with hasFocus := true } := by
  have focus := w.acquireFocus_engine
  rcases h : w.acquireFocus with ⟨_ | _, w'⟩ <;> simp only [h] at focus
  · have unfocused := w.unfocused_of_denied (by rw [h])
    exact .inl ⟨w', rfl, unfocused, by rw [focus, ← unfocused]⟩
  · exact .inr ⟨w', _, _, rfl, rfl, focus⟩

theorem begin_engine (w : World σ L) (item : Item) (session : SessionId) :
    w.engine.Begins item session (w.begin item session).engine := by
  unfold begin
  obtain ⟨w', h, unfocused, same⟩ | ⟨w', result, w'', h, h', focused⟩ :=
    w.acquireFocus_playSession session
  · simp only [h, setMode_engine, destroyOutput_engine, denyFocus_engine, same]
    exact .denied unfocused
  · simp only [h, h']
    cases result with
    | ok =>
      simp only [setMode_engine, focused]
      exact .played
    | error e =>
      simp only [fail_engine, focused]
      exact .failed

theorem resume_engine (w : World σ L) (item : Item) (session : SessionId) :
    w.engine.Resumes item session (w.resume item session).engine := by
  unfold resume
  obtain ⟨w', h, unfocused, same⟩ | ⟨w', result, w'', h, h', focused⟩ :=
    w.acquireFocus_playSession session
  · simp only [h, setMode_engine, denyFocus_engine, same]
    exact .denied unfocused
  · simp only [h, h']
    cases result with
    | ok =>
      simp only [setMode_engine, focused]
      exact .played
    | error e =>
      simp only [fail_engine, focused]
      exact .failed

theorem pause_engine (w : World σ L) : w.engine.Pauses w.pause.engine := by
  unfold pause
  split
  case h_1 item session playing =>
    rcases h : w.pauseSession session with ⟨result, w'⟩
    have same : w'.engine = w.engine := by rw [← w.pauseSession_engine session, h]
    cases result with
    | ok =>
      simp only [setMode_engine, same]
      exact .paused playing
    | error e =>
      simp only [fail_engine, same]
      exact .failed playing
  case h_2 item request preparing => exact .held preparing
  case h_3 playing preparing => exact .kept playing preparing

end World
end MediaPlayback
