import MediaPlayback.Proofs.Engine.Outcome

/-! The engine's front: what others see of playback. These are the reports of the track, the state and
the position that subscribers get, what listeners are told of track and state, what the playback
notification was asked to show, and what the host was asked to prepare; and besides what these are
made of, the registered listeners and the tags of items. Handling a message leaves the front as it is,
but for a tick of the clock and a move to the background. All else is done when changes are published,
and prepares begin between the turns. -/

namespace MediaPlayback

/-- What a trace tells of what others see of playback, the last of it first. -/
structure Coverage where
  news : List PlaybackEvent
  notices : List (ListenerId × Notice)
  /-- What the notification was asked to show, and whether the host did. -/
  shows : List (NotificationContent × Bool)
  /-- What the host was asked to prepare. -/
  asked : List OutputRequest

/-- A report of the track, the state or the position. -/
def CoreEvent.report? : CoreEvent → Option PlaybackEvent
  | .playback (.focusDenied _) | .playback (.error ..) => none
  | .playback event => some event
  | .lifecycle _ => none

namespace Effect

variable {L : Type}

/-- What subscribers get. -/
def event? : Effect L → Option CoreEvent
  | .emitted event => some event
  | _ => none

/-- What subscribers learn of the track, the state or the position. -/
def news? (effect : Effect L) : Option PlaybackEvent := effect.event?.bind CoreEvent.report?

/-- What a listener is told of the track or the state. -/
def notice? : Effect L → Option (ListenerId × Notice)
  | .notified id _ (.trackChanged item) => some (id, .trackChanged item)
  | .notified id _ (.stateChanged state) => some (id, .stateChanged state)
  | _ => none

/-- What the notification is asked to show, and whether the host does. -/
def show? : Effect L → Option (NotificationContent × Bool)
  | .called (.showNotification _ content) result => some (content, result matches .ok _)
  | _ => none

/-- What the host is asked to prepare. -/
def asked? : Effect L → Option OutputRequest
  | .prepares output => some output
  | _ => none

def coverage (trace : List (Effect L)) : Coverage :=
  ⟨trace.filterMap news?, trace.filterMap notice?, trace.filterMap show?, trace.filterMap asked?⟩

/-- Whether an effect is nothing that others see of playback. -/
def isCovert (effect : Effect L) : Bool :=
  effect.news?.isNone && effect.notice?.isNone && effect.show?.isNone && effect.asked?.isNone

theorem coverage_cons {effect : Effect L} (covert : effect.isCovert) (trace : List (Effect L)) :
    coverage (effect :: trace) = coverage trace := by
  simp only [isCovert, Bool.and_eq_true, Option.isNone_iff_eq_none] at covert
  obtain ⟨⟨⟨news, notice⟩, shows⟩, asked⟩ := covert
  simp [coverage, news, notice, shows, asked]

end Effect

/-- Whether a call asks for a notification. -/
def HostCall.isShow : HostCall → Bool
  | .showNotification .. => true
  | _ => false

/-- What others see of playback, and what that is made of. -/
structure Front (L : Type) extends Coverage where
  listeners : Registry L
  tags : List (Nat × Tags)

namespace World

variable {σ L : Type}

def coverage (w : World σ L) : Coverage := Effect.coverage w.trace

def front (w : World σ L) : Front L := ⟨w.coverage, w.listeners, w.catalog.tags⟩

@[simp] theorem log_front (w : World σ L) (source : LogSource) (level : LogLevel)
    (message : String) (fields : List (String × String)) :
    (w.log source level message fields).front = w.front := rfl

@[simp] theorem logWithin_front (w : World σ L) (span : Option String) (source : LogSource)
    (level : LogLevel) (message : String) (fields : List (String × String)) :
    (w.logWithin span source level message fields).front = w.front := rfl

@[simp] theorem reply_front (w : World σ L) (r : Reply) : (w.reply r).front = w.front := rfl

@[simp] theorem setMode_front (w : World σ L) (mode : Mode) : (w.setMode mode).front = w.front := rfl

@[simp] theorem setCursor_front (w : World σ L) (cursor : Cursor) :
    (w.setCursor cursor).front = w.front := rfl

@[simp] theorem setFocusPaused_front (w : World σ L) (focusPaused : Bool) :
    (w.setFocusPaused focusPaused).front = w.front := rfl

@[simp] theorem setPlaylistOf_front (w : World σ L) (playlist : Playlist) :
    (w.setPlaylistOf playlist).front = w.front := rfl

@[simp] theorem moveCursor_front (w : World σ L) (index : Nat) :
    (w.moveCursor index).front = w.front := by
  unfold moveCursor
  split <;> rfl

@[simp] theorem emitFailure_front (w : World σ L) (item : Item) (failure : PlaybackError) :
    (w.emitFailure item failure).front = w.front := rfl

@[simp] theorem denyFocus_front (w : World σ L) (item : Item) :
    (w.denyFocus item).front = w.front := rfl

variable [Surroundings σ L]

theorem call_front (w : World σ L) {call : HostCall} (unshown : call.isShow = false) :
    (w.call call).2.front = w.front := by
  have covert : ∀ result, (Effect.called (L := L) call result).isCovert := by
    cases call <;> first | contradiction | exact fun _ => rfl
  exact congrArg (Front.mk · w.listeners w.catalog.tags) (Effect.coverage_cons (covert _) w.trace)

@[simp] theorem acquireFocus_front (w : World σ L) : w.acquireFocus.2.front = w.front := by
  unfold acquireFocus
  split
  · rfl
  · obtain ⟨result, outside, h⟩ := w.exists_call .requestFocus
    rw [h]
    rcases result with e | (_ | _) <;> rfl

@[simp] theorem releaseFocus_front (w : World σ L) : w.releaseFocus.front = w.front := by
  unfold releaseFocus
  split
  · obtain ⟨result, outside, h⟩ :=
      exists_call { w with engine := { w.engine with hasFocus := false } } .abandonFocus
    rw [h]
    cases result <;> rfl
  · rfl

@[simp] theorem acquireWakeLock_front (w : World σ L) : w.acquireWakeLock.front = w.front := by
  unfold acquireWakeLock
  split
  · rfl
  · obtain ⟨result, outside, h⟩ :=
      w.exists_call (.acquireWakeLock wakeLockTag w.settings.wakeLockTimeout)
    rw [h]
    cases result <;> rfl

@[simp] theorem releaseWakeLock_front (w : World σ L) : w.releaseWakeLock.front = w.front := by
  unfold releaseWakeLock
  split
  · obtain ⟨result, outside, h⟩ :=
      exists_call { w with engine := { w.engine with holdsWakeLock := false } }
        (.releaseWakeLock wakeLockTag)
    rw [h]
    cases result <;> rfl
  · rfl

@[simp] theorem screenOn_front (w : World σ L) : w.screenOn.2.front = w.front := by
  obtain ⟨result, outside, h⟩ := w.exists_call .isScreenOn
  unfold screenOn
  rw [h]
  cases result <;> rfl

@[simp] theorem unload_front (w : World σ L) (span : Option String) (session : SessionId) :
    (w.unload span session).front = w.front := by
  unfold unload
  obtain ⟨result, outside, h⟩ := w.exists_call (.unload session)
  rw [h]
  cases result <;> rfl

@[simp] theorem destroyOutput_front (w : World σ L) (span : Option String) :
    (w.destroyOutput span).front = w.front := by
  unfold destroyOutput
  split
  · rfl
  · exact unload_front _ span _

@[simp] theorem adopt_front (w : World σ L) (session : SessionId) :
    (w.adopt session).front = w.front := by
  unfold adopt
  split
  · rfl
  · exact w.destroyOutput_front none

@[simp] theorem discard_front (w : World σ L) (session : SessionId) :
    (w.discard session).front = w.front := by
  unfold discard
  split <;> simp

@[simp] theorem playSession_front (w : World σ L) (session : SessionId) :
    (w.playSession session).2.front = w.front := w.call_front rfl

@[simp] theorem pauseSession_front (w : World σ L) (session : SessionId) :
    (w.pauseSession session).2.front = w.front := w.call_front rfl

@[simp] theorem seekSession_front (w : World σ L) (session : SessionId) (position : Duration) :
    (w.seekSession session position).2.front = w.front := w.call_front rfl

@[simp] theorem sessionPosition_front (w : World σ L) (session : SessionId) :
    (w.sessionPosition session).2.front = w.front := by
  unfold sessionPosition
  obtain ⟨result, outside, h⟩ := w.exists_call (.position session)
  rw [h]
  cases result <;> rfl

@[simp] theorem hideNotification_front (w : World σ L) : w.hideNotification.front = w.front := by
  unfold hideNotification
  split
  · obtain ⟨result, outside, h⟩ := w.exists_call (.cancelNotification w.notificationId)
    rw [h]
    cases result <;> rfl
  · rfl

@[simp] theorem stop_front (w : World σ L) : w.stop.front = w.front := by simp [stop]

@[simp] theorem fail_front (w : World σ L) (item : Item) (failure : PlaybackError) :
    (w.fail item failure).front = w.front := by simp [fail]

@[simp] theorem reset_front (w : World σ L) : w.reset.front = w.front := by
  simp [reset, releaseAll]

@[simp] theorem start_front (w : World σ L) (item : Item) (autoplay : Bool)
    (seekTo : Option Duration) : (w.start item autoplay seekTo).front = w.front := by
  unfold start
  dsimp only
  rw [setMode_front]
  exact destroyOutput_front _ replacing

@[simp] theorem begin_front (w : World σ L) (item : Item) (session : SessionId) :
    (w.begin item session).front = w.front := by
  unfold begin
  have focused := w.acquireFocus_front
  generalize w.acquireFocus = answer at focused ⊢
  rcases answer with ⟨_ | _, w'⟩
  · simpa using focused
  · have plays := w'.playSession_front session
    dsimp only at focused ⊢
    rw [← focused]
    generalize w'.playSession session = answer at plays ⊢
    rcases answer with ⟨_ | _, w''⟩ <;> simpa using plays

@[simp] theorem resume_front (w : World σ L) (item : Item) (session : SessionId) :
    (w.resume item session).front = w.front := by
  unfold resume
  have focused := w.acquireFocus_front
  generalize w.acquireFocus = answer at focused ⊢
  rcases answer with ⟨_ | _, w'⟩
  · simpa using focused
  · have plays := w'.playSession_front session
    dsimp only at focused ⊢
    rw [← focused]
    generalize w'.playSession session = answer at plays ⊢
    rcases answer with ⟨_ | _, w''⟩ <;> simpa using plays

@[simp] theorem pause_front (w : World σ L) : w.pause.front = w.front := by
  unfold pause
  split
  case h_1 item session playing =>
    have paused := w.pauseSession_front session
    generalize w.pauseSession session = answer at paused ⊢
    rcases answer with ⟨_ | _, w'⟩ <;> simpa using paused
  case h_2 => rfl
  case h_3 => rfl

@[simp] theorem navigate_front (w : World σ L) (ahead : Bool) :
    (w.navigate ahead).front = w.front := by
  unfold navigate
  dsimp only
  generalize (if ahead then w.engine.cursor.forward else w.engine.cursor.backward) = moved
  split
  · rfl
  · split <;> simp

@[simp] theorem play_front (w : World σ L) : w.play.front = w.front := by
  unfold play
  dsimp only
  split
  · simp
  · rfl
  · split <;> simp
  · rfl

@[simp] theorem playItem_front (w : World σ L) (item : Item) :
    (w.playItem item).front = w.front := by
  unfold playItem
  dsimp only
  split <;> simp

@[simp] theorem toggle_front (w : World σ L) : w.toggle.front = w.front := by
  unfold toggle pauseByUser
  split <;> simp

@[simp] theorem seekWithin_front (w : World σ L) (session : SessionId) (position : Duration) :
    (w.seekWithin session position).front = w.front := by
  unfold seekWithin
  have sought := w.seekSession_front session position
  generalize w.seekSession session position = answer at sought ⊢
  rcases answer with ⟨_ | _, w'⟩ <;> exact sought

@[simp] theorem seek_front (w : World σ L) (position : Duration) :
    (w.seek position).front = w.front := by
  unfold seek
  split
  · exact w.seekWithin_front _ position
  · exact w.seekWithin_front _ position
  · rfl
  · split <;> simp

@[simp] theorem playInPlaylist_front (w : World σ L) (item : Item) (playlist : Playlist) :
    (w.playInPlaylist item playlist).front = w.front := by
  unfold playInPlaylist
  dsimp only
  split
  · split <;> simp
  · split
    · split <;> simp
    · simp

@[simp] theorem setPlaylist_front (w : World σ L) (playlist : Playlist) :
    (w.setPlaylist playlist).front = w.front := by
  unfold setPlaylist
  dsimp only
  split
  · simp
  · split <;> simp

@[simp] theorem setIndex_front (w : World σ L) (index : Nat) :
    (w.setIndex index).2.front = w.front := by
  unfold setIndex
  dsimp only
  split
  · rfl
  · split
    · rfl
    · split
      · rfl
      · split <;> simp

@[simp] theorem progress_front (w : World σ L) : w.progress.2.front = w.front := by
  unfold progress
  split <;> simp

@[simp] theorem seekPrepared_front (w : World σ L) (session : SessionId)
    (seekTo : Option Duration) : (w.seekPrepared session seekTo).front = w.front := by
  unfold seekPrepared
  split
  case h_1 => rfl
  case h_2 position =>
    have sought := w.seekSession_front session position
    generalize w.seekSession session position = answer at sought ⊢
    rcases answer with ⟨_ | _, w'⟩ <;> exact sought

omit [Surroundings σ L] in
/-- A duration that becomes known is no tag. -/
@[simp] theorem recordDuration_front (w : World σ L) (item : Item) (d : Duration) :
    front { w with catalog := w.catalog.recordDuration item d } = w.front := by
  unfold Catalog.recordDuration
  split <;> rfl

theorem settlePrepared_front (w : World σ L) (request : PrepareRequest) (item : Item)
    (result : Except HostError PreparedSession) :
    (w.settlePrepared request item result).front = w.front := by
  unfold settlePrepared
  cases result with
  | error => simp
  | ok prepared =>
    dsimp only
    have settled : ∀ w' : World σ L, w'.front = w.front → (if request.autoplay then
        (w'.seekPrepared prepared.session request.seekTo).begin item prepared.session
      else (w'.seekPrepared prepared.session request.seekTo).setMode
        (.paused item prepared.session)).front = w.front := by
      intro w' same
      split <;> simpa using same
    apply settled
    split
    · exact (recordDuration_front _ item _).trans (adopt_front _ prepared.session)
    · exact adopt_front _ prepared.session

theorem onPrepared_front (w : World σ L) (id : Nat) (item : Item)
    (result : Except HostError PreparedSession) :
    (w.onPrepared id item result).front = w.front := by
  have discarded : (w.discardPrepared id result).front = w.front := by
    unfold discardPrepared
    cases result <;> simp
  unfold onPrepared
  split
  · split
    · exact w.settlePrepared_front _ item result
    · exact discarded
  · exact discarded

@[simp] theorem replay_front (w : World σ L) (session : SessionId) :
    (w.replay session).2.front = w.front := by
  unfold replay
  have sought := w.seekSession_front session .zero
  generalize w.seekSession session .zero = answer at sought ⊢
  rcases answer with ⟨_ | _, w'⟩
  · exact sought
  · exact (w'.playSession_front session).trans sought

theorem onOutput_front (w : World σ L) (event : OutputEvent) :
    (w.onOutput event).front = w.front := by
  have completed : ∀ item session, (w.onCompleted item session).front = w.front := by
    intro item session
    unfold onCompleted
    dsimp only
    have logged := w.log_front .engine .debug "Playback completed" [("file", item.fileName)]
    generalize w.log .engine .debug "Playback completed" [("file", item.fileName)] = w' at logged ⊢
    rw [← logged]
    split
    · have replayed := w'.replay_front session
      generalize w'.replay session = answer at replayed ⊢
      rcases answer with ⟨_ | _, w''⟩ <;> simpa using replayed
    · split <;> simp
  have live : ∀ item session, (w.onLiveOutput item session event).front = w.front := by
    intro item session
    cases event with
    | completed => exact completed item session
    | failed => rfl
  unfold onOutput
  split
  · split
    · exact live _ _
    · rfl
  · split
    · exact live _ _
    · rfl
  · rfl

theorem onFocus_front (w : World σ L) (change : FocusChange) :
    (w.onFocus change).front = w.front := by
  unfold onFocus
  dsimp only
  have logged := w.log_front .engine .debug "Audio focus changed" [("change", change.name)]
  generalize w.log .engine .debug "Audio focus changed" [("change", change.name)] = w' at logged ⊢
  rw [← logged]
  cases change with
  | lost =>
    dsimp only
    split <;> simp
  | lostTransient =>
    dsimp only
    split <;> simp
  | gained =>
    dsimp only
    split
    · split <;> simp
    · rfl

/-- Messages that are neither a tick nor a lifecycle declaration leave the front as it is. -/
theorem handle_front (w : World σ L) {m : Message} (still : m ≠ .tick)
    (stays : ∀ event, m ≠ .lifecycle event) : (w.handle m).front = w.front := by
  cases m with
  | play => exact w.play_front
  | playItem item => exact w.playItem_front item
  | pause => exact (w.setFocusPaused false).pause_front
  | toggle => exact w.toggle_front
  | forward => exact w.navigate_front true
  | backward => exact w.navigate_front false
  | reset => exact w.reset_front
  | seek position => exact w.seek_front position
  | setRepeatMode | setShuffle | snapshot | shutdown => rfl
  | playInPlaylist item playlist => exact w.playInPlaylist_front item playlist
  | setPlaylist playlist => exact w.setPlaylist_front playlist
  | setIndex index => exact w.setIndex_front index
  | progress => exact w.progress_front
  | prepared request item result => exact w.onPrepared_front request item result
  | output event => exact w.onOutput_front event
  | focus change => exact w.onFocus_front change
  | lifecycle event => exact absurd rfl (stays event)
  | tick => exact absurd rfl still

end World

namespace Engine

/-- Where the app is and what was published last stays as it is. So do the notification and the wake
lock, unless the engine gave up everything. -/
structure Retains (e e' : Engine) : Prop where
  backgrounded : e'.backgrounded = e.backgrounded
  lastState : e'.lastState = e.lastState
  lastItem : e'.lastItem = e.lastItem
  held : (e'.shown = e.shown ∧ e'.holdsWakeLock = e.holdsWakeLock) ∨
    e'.mode = .idle ∧ e'.shown = false ∧ e'.holdsWakeLock = false

variable {e e' e'' : Engine} {item : Item} {session : SessionId}

theorem Retains.refl (e : Engine) : e.Retains e := ⟨rfl, rfl, rfl, .inl ⟨rfl, rfl⟩⟩

theorem Retains.cleared (e : Engine) : e.Retains e.cleared :=
  ⟨rfl, rfl, rfl, .inr ⟨rfl, rfl, rfl⟩⟩

/-- Pointing the cursor at something changes nothing else. -/
theorem exists_pointed (e : Engine) (index : Nat) :
    ∃ cursor, e.pointed index = { e with cursor } := by
  unfold pointed
  split
  · exact ⟨_, rfl⟩
  · exact ⟨e.cursor, rfl⟩

theorem exists_pointedAt (e : Engine) (item : Item) :
    ∃ cursor, e.pointedAt item = { e with cursor } := by
  unfold pointedAt
  split
  · exact e.exists_pointed _
  · exact ⟨e.cursor, rfl⟩

theorem Retains.navigated (e : Engine) (ahead : Bool) : e.Retains (e.navigated ahead) := by
  unfold Engine.navigated
  dsimp only
  split
  · exact ⟨rfl, rfl, rfl, .inl ⟨rfl, rfl⟩⟩
  · split
    · exact ⟨rfl, rfl, rfl, .inl ⟨rfl, rfl⟩⟩
    · exact ⟨rfl, rfl, rfl, .inr ⟨rfl, rfl, rfl⟩⟩

theorem Begins.retains (begins : e.Begins item session e') : e.Retains e' := by
  cases begins <;> exact ⟨rfl, rfl, rfl, .inl ⟨rfl, rfl⟩⟩

theorem Resumes.retains (resumes : e.Resumes item session e') : e.Retains e' := by
  cases resumes <;> exact ⟨rfl, rfl, rfl, .inl ⟨rfl, rfl⟩⟩

theorem Pauses.retains (pauses : e.Pauses e') : e.Retains e' := by
  cases pauses <;> exact ⟨rfl, rfl, rfl, .inl ⟨rfl, rfl⟩⟩

theorem Plays.retains (plays : e.Plays e') : e.Retains e' := by
  cases plays with
  | resumed _ resumes =>
    obtain ⟨backgrounded, lastState, lastItem, held⟩ := resumes.retains
    exact ⟨backgrounded, lastState, lastItem, held⟩
  | awaited | started | nothing | playing => exact ⟨rfl, rfl, rfl, .inl ⟨rfl, rfl⟩⟩

/-- Only lifecycle declarations have to do with where the app is, and what was published last is
left to be published. -/
theorem Handles.retains {m : Message} (handles : e.Handles m e')
    (stays : ∀ event, m ≠ .lifecycle event) : e.Retains e' := by
  cases handles with
  | play plays | togglePlay _ plays => exact plays.retains
  | @playItemInside _ index =>
    obtain ⟨cursor, pointed⟩ := e.exists_pointed index
    rw [pointed]
    exact ⟨rfl, rfl, rfl, .inl ⟨rfl, rfl⟩⟩
  | pause pauses | togglePause _ pauses | lostPlaying _ pauses | lostTransientPlaying _ pauses =>
    obtain ⟨backgrounded, lastState, lastItem, held⟩ := pauses.retains
    exact ⟨backgrounded, lastState, lastItem, held⟩
  | forward => exact .navigated e true
  | backward => exact .navigated e false
  | advanced => exact .navigated e true
  | reset | finished => exact .cleared e
  | reselected _ _ resumes => exact resumes.retains
  | gainedPaused _ _ resumes =>
    obtain ⟨backgrounded, lastState, lastItem, held⟩ := resumes.retains
    exact ⟨backgrounded, lastState, lastItem, held⟩
  | @chosen item playlist words =>
    obtain ⟨cursor, pointed⟩ := (e.withPlaylist playlist words).exists_pointedAt item
    rw [pointed]
    exact ⟨rfl, rfl, rfl, .inl ⟨rfl, rfl⟩⟩
  | @setPlaylistAround playlist _ index words =>
    obtain ⟨cursor, pointed⟩ := (e.withPlaylist playlist words).exists_pointed index
    rw [pointed]
    exact ⟨rfl, rfl, rfl, .inl ⟨rfl, rfl⟩⟩
  | preparedBegun _ _ _ begins =>
    obtain ⟨backgrounded, lastState, lastItem, held⟩ := begins.retains
    exact ⟨backgrounded, lastState, lastItem, held⟩
  | background => exact absurd rfl (stays _)
  | foreground => exact absurd rfl (stays _)
  | playItemOutside | seekLive | seekAwaited | seekStarted | seekNothing | setRepeatMode
  | setShuffle | reselectedAwaited | reselectedPlaying | notChosen | setPlaylist
  | setPlaylistWithout | indexOutside | indexOnly | indexStarted | snapshot | progress
  | preparedLate | preparedFailed | preparedHeld | outputStale | outputFailed | replayed
  | recreated | lost | lostTransient | gained | tick | shutdown =>
    exact ⟨rfl, rfl, rfl, .inl ⟨rfl, rfl⟩⟩

end Engine
end MediaPlayback
