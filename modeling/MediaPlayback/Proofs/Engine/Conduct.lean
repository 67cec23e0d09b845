import MediaPlayback.Proofs.Engine.Change

/-! What turns are made of. Whatever the engine does is a sequence of steps: it goes on about its own
business, or it asks for one of the tokens that the host gives out, or it gives one back.
`World.Conducts` lists these steps, and every operation of a world is made of them, so what each of
them keeps is kept by all that happens. -/

namespace MediaPlayback

/-- What a host gives out and gets back. -/
inductive Token where
  | focus
  | wakeLock
  | notification
deriving DecidableEq, Repr

/-- What a call does to a token. -/
inductive Deed where
  /-- It was asked for in vain. -/
  | refused
  | taken
  /-- It was given back, whether or not the host could do with it. -/
  | returned
deriving DecidableEq, Repr

/-- Whether the engine holds a token. -/
def Engine.holds (e : Engine) : Token → Bool
  | .focus => e.hasFocus
  | .wakeLock => e.holdsWakeLock
  | .notification => e.shown

/-- What a call that got an answer did, and to which token. -/
def HostCall.deed? : (call : HostCall) → call.Result → Option (Token × Deed)
  | .requestFocus, .ok .granted => some (.focus, .taken)
  | .requestFocus, _ => some (.focus, .refused)
  | .abandonFocus, _ => some (.focus, .returned)
  | .acquireWakeLock .., .ok _ => some (.wakeLock, .taken)
  | .acquireWakeLock .., .error _ => some (.wakeLock, .refused)
  | .releaseWakeLock _, _ => some (.wakeLock, .returned)
  | .showNotification .., .ok _ => some (.notification, .taken)
  | .showNotification .., .error _ => some (.notification, .refused)
  | .cancelNotification _, _ => some (.notification, .returned)
  | _, _ => none

/-- Whether a call plays or pauses a session. -/
def HostCall.isLoud : HostCall → Bool
  | .play _ | .pause _ => true
  | _ => false

namespace Effect

variable {L : Type}

/-- What an effect did to a token. -/
def deed? : Effect L → Option (Token × Deed)
  | .called call result => call.deed? result
  | _ => none

def isLoud : Effect L → Bool
  | .called call _ => call.isLoud
  | _ => false

/-- Whether an effect is about no token. Sessions may be played and paused only where that is
`loud`. -/
def isDeedless (loud : Bool) (effect : Effect L) : Bool :=
  effect.deed?.isNone && (!effect.isLoud || loud)

end Effect

/-- Whether a token is asked for only while it is not held. A notification is shown over and over. -/
def Token.isExclusive : Token → Bool
  | .focus | .wakeLock => true
  | .notification => false

namespace Deed

/-- Whether a token is held after a deed. -/
def after (held : Bool) : Deed → Bool
  | .refused => held
  | .taken => true
  | .returned => false

/-- Whether a deed is in order: only what is held is given back, and what is exclusive is asked for
only while it is not held. -/
def InOrder (token : Token) (held : Bool) (deed : Deed) : Prop :=
  (deed = .returned → held = true) ∧
  (deed ≠ .returned → token.isExclusive = true → held = false)

end Deed

namespace World

variable {σ L : Type}

/-- From one world to another nothing happened but orderly steps. -/
inductive Conducts (loud : Bool) : World σ L → World σ L → Prop where
  | trans {w w' w'' : World σ L} (first : Conducts loud w w') (second : Conducts loud w' w'') :
    Conducts loud w w''
  /-- The engine does something that is about no token. -/
  | deedless {w w' : World σ L} (effects : List (Effect L)) (trace : w'.trace = effects ++ w.trace)
    (deedless : effects.all (·.isDeedless loud)) (holds : w'.engine.holds = w.engine.holds) :
    Conducts loud w w'
  /-- The engine asks for a token or gives one back. -/
  | deals {w w' : World σ L} {effect : Effect L} (token : Token) {deed : Deed}
    (about : effect.deed? = some (token, deed)) (trace : w'.trace = effect :: w.trace)
    (order : deed.InOrder token (w.engine.holds token))
    (holds : ∀ other, w'.engine.holds other =
      if other = token then deed.after (w.engine.holds token) else w.engine.holds other) :
    Conducts loud w w'

variable {loud : Bool}

theorem Conducts.refl (w : World σ L) : Conducts loud w w := .deedless [] rfl rfl rfl

theorem log_conducts (w : World σ L) (source : LogSource) (level : LogLevel) (message : String)
    (fields : List (String × String)) : Conducts loud w (w.log source level message fields) :=
  .deedless [_] rfl rfl rfl

theorem logWithin_conducts (w : World σ L) (span : Option String) (source : LogSource)
    (level : LogLevel) (message : String) (fields : List (String × String)) :
    Conducts loud w (w.logWithin span source level message fields) :=
  .deedless [_] rfl rfl rfl

theorem emit_conducts (w : World σ L) (event : PlaybackEvent) : Conducts loud w (w.emit event) :=
  .deedless [_] rfl rfl rfl

theorem reply_conducts (w : World σ L) (r : Reply) : Conducts loud w (w.reply r) :=
  .deedless [_] rfl rfl rfl

theorem setMode_conducts (w : World σ L) (mode : Mode) : Conducts loud w (w.setMode mode) :=
  .deedless [] rfl rfl rfl

theorem setCursor_conducts (w : World σ L) (cursor : Cursor) :
    Conducts loud w (w.setCursor cursor) :=
  .deedless [] rfl rfl rfl

theorem setFocusPaused_conducts (w : World σ L) (focusPaused : Bool) :
    Conducts loud w (w.setFocusPaused focusPaused) :=
  .deedless [] rfl rfl rfl

theorem setPlaylistOf_conducts (w : World σ L) (playlist : Playlist) :
    Conducts loud w (w.setPlaylistOf playlist) :=
  .deedless [] rfl rfl rfl

theorem moveCursor_conducts (w : World σ L) (index : Nat) :
    Conducts loud w (w.moveCursor index) := by
  unfold moveCursor
  split
  · exact w.setCursor_conducts _
  · exact w.log_conducts ..

theorem emitFailure_conducts (w : World σ L) (item : Item) (failure : PlaybackError) :
    Conducts loud w (w.emitFailure item failure) :=
  w.emit_conducts _

theorem denyFocus_conducts (w : World σ L) (item : Item) : Conducts loud w (w.denyFocus item) :=
  (w.log_conducts ..).trans (emit_conducts _ _)

theorem recordTold_conducts (notice : Notice) (w : World σ L) (told : Told L Command) :
    Conducts loud w (recordTold notice w told) := by
  unfold recordTold
  dsimp only
  split
  · exact .deedless [_] rfl rfl rfl
  · exact .deedless [_, _] rfl rfl rfl

variable [Surroundings σ L]

theorem tell_conducts (w : World σ L) (notice : Notice) : Conducts loud w (w.tell notice) := by
  have fold : ∀ (told : List (Told L Command)) (w : World σ L),
      Conducts loud w (told.foldl (recordTold notice) w) := by
    intro told
    induction told with
    | nil => exact fun w => .refl w
    | cons first rest ih => exact fun w => (w.recordTold_conducts notice first).trans (ih _)
  refine .trans ?_ (fold _ _)
  exact .deedless [] rfl rfl rfl

/-! ### The tokens -/

theorem acquireFocus_conducts (w : World σ L) : Conducts loud w w.acquireFocus.2 := by
  unfold acquireFocus
  split
  case isTrue => exact .refl w
  case isFalse free =>
    have free : w.engine.holds .focus = false := by simpa [Engine.holds] using free
    obtain ⟨result, outside, h⟩ := w.exists_call .requestFocus
    rw [h]
    rcases result with e | (_ | _)
    all_goals
      refine .trans ?_ (log_conducts _ ..)
      refine .deals .focus rfl rfl ⟨nofun, fun _ _ => free⟩ fun other => ?_
      cases other <;> rfl

theorem releaseFocus_conducts (w : World σ L) : Conducts loud w w.releaseFocus := by
  unfold releaseFocus
  split
  case isTrue held =>
    obtain ⟨result, outside, h⟩ :=
      exists_call { w with engine := { w.engine with hasFocus := false } } .abandonFocus
    rw [h]
    have given : Conducts loud w { w with
        engine := { w.engine with hasFocus := false }
        outside
        trace := .called .abandonFocus result :: w.trace } :=
      .deals .focus rfl rfl ⟨fun _ => held, nofun⟩ fun other => by cases other <;> rfl
    cases result with
    | ok => exact given
    | error => exact given.trans (log_conducts _ ..)
  case isFalse => exact .refl w

theorem acquireWakeLock_conducts (w : World σ L) : Conducts loud w w.acquireWakeLock := by
  unfold acquireWakeLock
  split
  case isTrue => exact .refl w
  case isFalse free =>
    have free : w.engine.holds .wakeLock = false := by simpa [Engine.holds] using free
    obtain ⟨result, outside, h⟩ :=
      w.exists_call (.acquireWakeLock wakeLockTag w.settings.wakeLockTimeout)
    rw [h]
    cases result
    all_goals
      refine .trans ?_ (log_conducts _ ..)
      refine .deals .wakeLock rfl rfl ⟨nofun, fun _ _ => free⟩ fun other => ?_
      cases other <;> rfl

theorem releaseWakeLock_conducts (w : World σ L) : Conducts loud w w.releaseWakeLock := by
  unfold releaseWakeLock
  split
  case isTrue held =>
    obtain ⟨result, outside, h⟩ :=
      exists_call { w with engine := { w.engine with holdsWakeLock := false } }
        (.releaseWakeLock wakeLockTag)
    rw [h]
    have given : Conducts loud w { w with
        engine := { w.engine with holdsWakeLock := false }
        outside
        trace := .called (.releaseWakeLock wakeLockTag) result :: w.trace } :=
      .deals .wakeLock rfl rfl ⟨fun _ => held, nofun⟩ fun other => by cases other <;> rfl
    cases result with
    | ok => exact given
    | error => exact given.trans (log_conducts _ ..)
  case isFalse => exact .refl w

theorem showNotification_conducts (w : World σ L) (content : NotificationContent)
    (state : PlaybackState) : Conducts loud w (w.showNotification content state) := by
  obtain ⟨result, outside, h⟩ := w.exists_call (.showNotification w.notificationId content)
  unfold showNotification
  rw [h]
  cases result
  all_goals
    refine .trans ?_ (log_conducts _ ..)
    refine .deals .notification rfl rfl ⟨nofun, nofun⟩ fun other => ?_
    cases other <;> rfl

theorem hideNotification_conducts (w : World σ L) : Conducts loud w w.hideNotification := by
  unfold hideNotification
  split
  case isTrue held =>
    obtain ⟨result, outside, h⟩ := w.exists_call (.cancelNotification w.notificationId)
    rw [h]
    -- That the host failed is noted before the notification counts as gone.
    have given : Conducts loud w { w with
        engine := { w.engine with shown := false }
        outside
        trace := .called (.cancelNotification w.notificationId) result :: w.trace } :=
      .deals .notification rfl rfl ⟨fun _ => held, nofun⟩ fun other => by
        cases other <;> rfl
    cases result with
    | ok => exact given
    | error => exact given.trans (.deedless [_] rfl rfl rfl)
  case isFalse => exact .refl w

theorem refreshNotification_conducts (w : World σ L) : Conducts loud w w.refreshNotification := by
  unfold refreshNotification present
  dsimp only
  split
  · split
    · exact w.showNotification_conducts _ _
    · exact w.hideNotification_conducts
  · exact w.hideNotification_conducts

/-! ### The other calls -/

theorem screenOn_conducts (w : World σ L) : Conducts loud w w.screenOn.2 := by
  obtain ⟨result, outside, h⟩ := w.exists_call .isScreenOn
  unfold screenOn
  rw [h]
  cases result with
  | ok => exact .deedless [_] rfl rfl rfl
  | error => exact .deedless [_, _] rfl rfl rfl

theorem unload_conducts (w : World σ L) (span : Option String) (session : SessionId) :
    Conducts loud w (w.unload span session) := by
  obtain ⟨result, outside, h⟩ := w.exists_call (.unload session)
  unfold unload
  rw [h]
  cases result with
  | ok => exact .deedless [_] rfl rfl rfl
  | error => exact .deedless [_, _] rfl rfl rfl

theorem destroyOutput_conducts (w : World σ L) (span : Option String) :
    Conducts loud w (w.destroyOutput span) := by
  unfold destroyOutput
  split
  case h_1 => exact .refl w
  case h_2 session _ =>
    refine .trans ?_ (logWithin_conducts _ ..)
    refine .trans ?_ (unload_conducts _ span session)
    exact .deedless [] rfl rfl rfl

theorem adopt_conducts (w : World σ L) (session : SessionId) :
    Conducts loud w (w.adopt session) := by
  unfold adopt
  split
  case isTrue => exact .refl w
  case isFalse => exact (w.destroyOutput_conducts none).trans (.deedless [_] rfl rfl rfl)

theorem discard_conducts (w : World σ L) (session : SessionId) :
    Conducts loud w (w.discard session) := by
  unfold discard
  split
  · exact .refl w
  · exact w.unload_conducts none session

theorem playSession_conducts (w : World σ L) (session : SessionId) :
    Conducts true w (w.playSession session).2 :=
  .deedless [_] rfl rfl rfl

theorem pauseSession_conducts (w : World σ L) (session : SessionId) :
    Conducts true w (w.pauseSession session).2 :=
  .deedless [_] rfl rfl rfl

theorem seekSession_conducts (w : World σ L) (session : SessionId) (position : Duration) :
    Conducts loud w (w.seekSession session position).2 :=
  .deedless [_] rfl rfl rfl

theorem sessionPosition_conducts (w : World σ L) (session : SessionId) :
    Conducts loud w (w.sessionPosition session).2 := by
  obtain ⟨result, outside, h⟩ := w.exists_call (.position session)
  unfold sessionPosition
  rw [h]
  cases result with
  | ok => exact .deedless [_] rfl rfl rfl
  | error => exact .deedless [_, _] rfl rfl rfl

/-! ### The transitions -/

theorem stop_conducts (w : World σ L) : Conducts loud w w.stop :=
  (w.setMode_conducts .idle).trans <|
    (setFocusPaused_conducts _ false).trans <|
      (destroyOutput_conducts _ none).trans (releaseFocus_conducts _)

theorem fail_conducts (w : World σ L) (item : Item) (failure : PlaybackError) :
    Conducts loud w (w.fail item failure) :=
  (w.log_conducts ..).trans ((emitFailure_conducts _ item failure).trans (stop_conducts _))

theorem reset_conducts (w : World σ L) : Conducts loud w w.reset :=
  (w.setMode_conducts .idle).trans <|
    (setFocusPaused_conducts _ false).trans <|
      (destroyOutput_conducts _ none).trans <|
        (releaseFocus_conducts _).trans <|
          (releaseWakeLock_conducts _).trans <|
            (setCursor_conducts _ _).trans (hideNotification_conducts _)

theorem start_conducts (w : World σ L) (item : Item) (autoplay : Bool) (seekTo : Option Duration) :
    Conducts loud w (w.start item autoplay seekTo) := by
  unfold start
  dsimp only
  refine .trans ?_ (setMode_conducts _ _)
  refine .trans ?_ (.deedless [_] rfl rfl rfl)
  refine .trans ?_ (destroyOutput_conducts _ replacing)
  exact .deedless [_] rfl rfl rfl

/-- Asking for focus and then playing a session, and what is made of the two. -/
theorem begin_conducts (w : World σ L) (item : Item) (session : SessionId) :
    Conducts true w (w.begin item session) := by
  have focus : Conducts true w _ := w.acquireFocus_conducts
  unfold begin
  rcases h : w.acquireFocus with ⟨_ | _, w'⟩ <;> rw [h] at focus <;> dsimp only
  · refine focus.trans ((denyFocus_conducts _ item).trans ?_)
    exact (destroyOutput_conducts _ none).trans (setMode_conducts _ .idle)
  · have played : Conducts true w' _ := w'.playSession_conducts session
    refine focus.trans ?_
    rcases h' : w'.playSession session with ⟨_ | _, w''⟩ <;> rw [h'] at played <;> dsimp only
    · exact played.trans (fail_conducts _ item _)
    · exact played.trans (setMode_conducts _ _)

theorem resume_conducts (w : World σ L) (item : Item) (session : SessionId) :
    Conducts true w (w.resume item session) := by
  have focus : Conducts true w _ := w.acquireFocus_conducts
  unfold resume
  rcases h : w.acquireFocus with ⟨_ | _, w'⟩ <;> rw [h] at focus <;> dsimp only
  · exact focus.trans ((denyFocus_conducts _ item).trans (setMode_conducts _ _))
  · have played : Conducts true w' _ := w'.playSession_conducts session
    refine focus.trans ?_
    rcases h' : w'.playSession session with ⟨_ | _, w''⟩ <;> rw [h'] at played <;> dsimp only
    · exact played.trans (fail_conducts _ item _)
    · exact played.trans (setMode_conducts _ _)

theorem pause_conducts (w : World σ L) : Conducts true w w.pause := by
  unfold pause
  split
  case h_1 item session _ =>
    have paused : Conducts true w _ := w.pauseSession_conducts session
    rcases h : w.pauseSession session with ⟨_ | _, w'⟩ <;> rw [h] at paused <;> dsimp only
    · exact paused.trans (fail_conducts _ item _)
    · exact paused.trans (setMode_conducts _ _)
  case h_2 => exact w.setMode_conducts _
  case h_3 => exact .refl w

theorem navigate_conducts (w : World σ L) (ahead : Bool) :
    Conducts loud w (w.navigate ahead) := by
  unfold navigate
  dsimp only
  generalize (if ahead then w.engine.cursor.forward else w.engine.cursor.backward) = moved
  refine (w.setCursor_conducts moved.2).trans ?_
  split
  · exact .refl _
  · split
    · exact start_conducts _ _ true none
    · exact (log_conducts _ ..).trans (reset_conducts _)

/-! ### The messages -/

theorem play_conducts (w : World σ L) : Conducts true w w.play := by
  unfold play
  dsimp only
  refine (w.setFocusPaused_conducts false).trans ?_
  split
  · exact resume_conducts _ _ _
  · exact setMode_conducts _ _
  · split
    · exact start_conducts _ _ true none
    · exact log_conducts _ ..
  · exact .refl _

theorem playItem_conducts (w : World σ L) (item : Item) : Conducts loud w (w.playItem item) := by
  unfold playItem
  dsimp only
  refine .trans ?_ (start_conducts _ item true none)
  split
  · exact w.moveCursor_conducts _
  · exact w.setPlaylistOf_conducts _

theorem pauseByUser_conducts (w : World σ L) : Conducts true w w.pauseByUser :=
  (w.setFocusPaused_conducts false).trans (pause_conducts _)

theorem toggle_conducts (w : World σ L) : Conducts true w w.toggle := by
  unfold toggle
  split
  · exact w.pauseByUser_conducts
  · exact w.play_conducts

theorem seekWithin_conducts (w : World σ L) (session : SessionId) (position : Duration) :
    Conducts loud w (w.seekWithin session position) := by
  have sought : Conducts loud w _ := w.seekSession_conducts session position
  unfold seekWithin
  rcases h : w.seekSession session position with ⟨_ | _, w'⟩ <;> rw [h] at sought <;> dsimp only
  · exact sought.trans (log_conducts _ ..)
  · exact sought

theorem seek_conducts (w : World σ L) (position : Duration) : Conducts loud w (w.seek position) := by
  unfold seek
  split
  · exact w.seekWithin_conducts _ position
  · exact w.seekWithin_conducts _ position
  · exact w.setMode_conducts _
  · split
    · exact w.start_conducts _ false _
    · exact w.log_conducts ..

/-- An item that is not active yet is only started. -/
theorem playInPlaylist_conducts_of_other (w : World σ L) {item : Item} (playlist : Playlist)
    (other : ¬ w.engine.mode.item?.any (·.Same item)) :
    Conducts loud w (w.playInPlaylist item playlist) := by
  unfold playInPlaylist
  rw [if_neg other]
  split
  case isTrue =>
    dsimp only
    refine .trans ?_ (start_conducts _ item true none)
    refine (w.setPlaylistOf_conducts playlist).trans ?_
    split
    · exact moveCursor_conducts _ _
    · exact .refl _
  case isFalse => exact w.log_conducts ..

theorem playInPlaylist_conducts (w : World σ L) (item : Item) (playlist : Playlist) :
    Conducts true w (w.playInPlaylist item playlist) := by
  by_cases same : w.engine.mode.item?.any (·.Same item)
  · unfold playInPlaylist
    rw [if_pos same]
    split
    · exact w.resume_conducts _ _
    · exact w.setMode_conducts _
    · exact .refl w
  · exact w.playInPlaylist_conducts_of_other playlist same

theorem setPlaylist_conducts (w : World σ L) (playlist : Playlist) :
    Conducts loud w (w.setPlaylist playlist) := by
  unfold setPlaylist
  dsimp only
  refine (w.setPlaylistOf_conducts playlist).trans ?_
  split
  · exact .refl _
  · split
    · exact moveCursor_conducts _ _
    · exact (log_conducts _ ..).trans (stop_conducts _)

theorem setIndex_conducts (w : World σ L) (index : Nat) :
    Conducts loud w (w.setIndex index).2 := by
  unfold setIndex
  dsimp only
  split
  case h_1 => exact .refl w
  case h_2 cursor inside =>
    have moved : Conducts loud w (w.setCursor cursor) := w.setCursor_conducts cursor
    split
    · exact moved
    · split
      · exact moved
      · split
        · exact moved
        · exact moved.trans (start_conducts _ _ _ none)

theorem progress_conducts (w : World σ L) : Conducts loud w w.progress.2 := by
  unfold progress
  split
  · exact w.sessionPosition_conducts _
  · exact .refl w

theorem seekPrepared_conducts (w : World σ L) (session : SessionId) (seekTo : Option Duration) :
    Conducts loud w (w.seekPrepared session seekTo) := by
  unfold seekPrepared
  split
  case h_1 => exact .refl w
  case h_2 position =>
    have sought : Conducts loud w _ := w.seekSession_conducts session position
    rcases h : w.seekSession session position with ⟨_ | _, w'⟩ <;> rw [h] at sought <;> dsimp only
    · exact sought.trans (log_conducts _ ..)
    · exact sought

theorem settlePrepared_conducts (w : World σ L) (request : PrepareRequest) (item : Item)
    (result : Except HostError PreparedSession) :
    Conducts true w (w.settlePrepared request item result) := by
  cases result with
  | error =>
    exact (w.setMode_conducts .idle).trans
      ((log_conducts _ ..).trans ((emitFailure_conducts _ item _).trans (stop_conducts _)))
  | ok prepared =>
    have adopted : Conducts true w ((w.setMode .idle).adopt prepared.session) :=
      (w.setMode_conducts .idle).trans (adopt_conducts _ _)
    have settled : ∀ w' : World σ L, Conducts true w' (
        if request.autoplay then
          (w'.seekPrepared prepared.session request.seekTo).begin item prepared.session
        else (w'.seekPrepared prepared.session request.seekTo).setMode
          (.paused item prepared.session)) := by
      intro w'
      refine (w'.seekPrepared_conducts prepared.session request.seekTo).trans ?_
      split
      · exact begin_conducts _ item _
      · exact setMode_conducts _ _
    unfold settlePrepared
    dsimp only
    refine adopted.trans ?_
    cases prepared.duration with
    | none => exact settled _
    | some duration =>
      refine .trans ?_ (settled _)
      exact .deedless [] rfl rfl rfl

theorem discardPrepared_conducts (w : World σ L) (id : Nat)
    (result : Except HostError PreparedSession) :
    Conducts loud w (w.discardPrepared id result) := by
  cases result with
  | ok prepared => exact (w.log_conducts ..).trans (discard_conducts _ prepared.session)
  | error => exact w.log_conducts ..

theorem onPrepared_conducts (w : World σ L) (id : Nat) (item : Item)
    (result : Except HostError PreparedSession) :
    Conducts true w (w.onPrepared id item result) := by
  unfold onPrepared
  split
  · split
    · exact w.settlePrepared_conducts _ item result
    · exact w.discardPrepared_conducts id result
  · exact w.discardPrepared_conducts id result

theorem replay_conducts (w : World σ L) (session : SessionId) :
    Conducts true w (w.replay session).2 := by
  have sought : Conducts true w _ := w.seekSession_conducts session .zero
  unfold replay
  rcases h : w.seekSession session .zero with ⟨_ | _, w'⟩ <;> rw [h] at sought <;> dsimp only
  · exact sought
  · exact sought.trans (playSession_conducts w' session)

theorem onCompleted_conducts (w : World σ L) (item : Item) (session : SessionId) :
    Conducts true w (w.onCompleted item session) := by
  have noted : Conducts true w _ :=
    w.log_conducts .engine .debug "Playback completed" [("file", item.fileName)]
  unfold onCompleted
  dsimp only
  generalize w.log .engine .debug "Playback completed" [("file", item.fileName)] = w' at noted ⊢
  refine noted.trans ?_
  split
  case isTrue =>
    have replayed : Conducts true w' _ := w'.replay_conducts session
    rcases h : w'.replay session with ⟨_ | _, w''⟩ <;> rw [h] at replayed <;> dsimp only
    · exact replayed.trans ((log_conducts _ ..).trans (start_conducts _ item true none))
    · exact replayed.trans (setMode_conducts _ _)
  case isFalse =>
    split
    · exact navigate_conducts _ true
    · exact reset_conducts _

theorem onOutput_conducts_of_live (w : World σ L) {event : OutputEvent}
    (live : ∀ item session, Conducts loud w (w.onLiveOutput item session event)) :
    Conducts loud w (w.onOutput event) := by
  unfold onOutput
  split
  · split
    · exact live _ _
    · exact w.log_conducts ..
  · split
    · exact live _ _
    · exact w.log_conducts ..
  · exact w.log_conducts ..

theorem onOutput_conducts_of_failed (w : World σ L) (session : SessionId) (message : String) :
    Conducts loud w (w.onOutput (.failed session message)) :=
  w.onOutput_conducts_of_live fun _ _ => (w.log_conducts ..).trans (emit_conducts _ _)

theorem onOutput_conducts (w : World σ L) (event : OutputEvent) :
    Conducts true w (w.onOutput event) := by
  cases event with
  | completed => exact w.onOutput_conducts_of_live w.onCompleted_conducts
  | failed session message => exact w.onOutput_conducts_of_failed session message

theorem onFocus_conducts (w : World σ L) (change : FocusChange) :
    Conducts true w (w.onFocus change) := by
  have noted : Conducts true w _ :=
    w.log_conducts .engine .debug "Audio focus changed" [("change", change.name)]
  unfold onFocus
  dsimp only
  generalize w.log .engine .debug "Audio focus changed" [("change", change.name)] = w' at noted ⊢
  refine noted.trans ?_
  cases change with
  | lost =>
    dsimp only
    refine (w'.setFocusPaused_conducts false).trans (.trans ?_ (releaseFocus_conducts _))
    split
    · exact pause_conducts _
    · exact .refl _
  | lostTransient =>
    dsimp only
    split
    · exact w'.pause_conducts.trans (setFocusPaused_conducts _ true)
    · exact .refl w'
  | gained =>
    dsimp only
    split
    · refine (w'.setFocusPaused_conducts false).trans ?_
      split
      · exact resume_conducts _ _ _
      · exact .refl _
    · exact .refl w'

theorem onLifecycle_conducts (w : World σ L) (event : LifecycleEvent) :
    Conducts loud w (w.onLifecycle event) := by
  unfold onLifecycle
  cases event with
  | becameBackground =>
    let away := { w with engine := { w.engine with backgrounded := true } }
    have gone : Conducts loud w away := .deedless [] rfl rfl rfl
    dsimp only
    refine gone.trans ?_
    split
    · exact .refl _
    · refine away.screenOn_conducts.trans (.trans ?_ (refreshNotification_conducts _))
      split
      · exact acquireWakeLock_conducts _
      · exact .refl _
  | becameForeground =>
    refine .trans ?_ ((releaseWakeLock_conducts _).trans (hideNotification_conducts _))
    exact .deedless [] rfl rfl rfl

theorem onTick_conducts (w : World σ L) : Conducts loud w w.onTick := by
  unfold onTick
  split
  case h_1 item session _ =>
    have asked : Conducts loud w _ := w.sessionPosition_conducts session
    rcases h : w.sessionPosition session with ⟨_ | _, w'⟩ <;> rw [h] at asked <;> dsimp only
    · exact asked
    · exact asked.trans (emit_conducts _ _)
  case h_2 => exact .refl w

theorem handle_conducts (w : World σ L) (m : Message) : Conducts true w (w.handle m) := by
  cases m with
  | play => exact w.play_conducts
  | playItem item => exact w.playItem_conducts item
  | pause => exact w.pauseByUser_conducts
  | toggle => exact w.toggle_conducts
  | forward => exact w.navigate_conducts true
  | backward => exact w.navigate_conducts false
  | reset => exact w.reset_conducts
  | seek position => exact w.seek_conducts position
  | setRepeatMode mode => exact (w.log_conducts ..).trans (setCursor_conducts _ _)
  | setShuffle shuffled => exact .deedless [_] rfl rfl rfl
  | playInPlaylist item playlist => exact w.playInPlaylist_conducts item playlist
  | setPlaylist playlist => exact w.setPlaylist_conducts playlist
  | setIndex index => exact (w.setIndex_conducts index).trans (reply_conducts _ _)
  | snapshot => exact w.reply_conducts _
  | progress => exact w.progress_conducts.trans (reply_conducts _ _)
  | prepared request item result => exact w.onPrepared_conducts request item result
  | output event => exact w.onOutput_conducts event
  | focus change => exact w.onFocus_conducts change
  | lifecycle event => exact w.onLifecycle_conducts event
  | tick => exact w.onTick_conducts
  | shutdown => exact w.reply_conducts _

/-! ### The turns -/

theorem publishItem_conducts (w : World σ L) : Conducts loud w w.publishItem := by
  unfold publishItem
  dsimp only
  split
  case isTrue => exact .refl w
  case isFalse =>
    refine .trans ?_ (emit_conducts _ _)
    refine .trans ?_ (tell_conducts _ _)
    exact .deedless [_] rfl rfl rfl

theorem publishState_conducts (w : World σ L) (state : PlaybackState) :
    Conducts loud w (w.publishState state) :=
  (w.log_conducts ..).trans ((tell_conducts _ _).trans (emit_conducts _ _))

theorem publish_conducts (w : World σ L) : Conducts loud w w.publish := by
  unfold publish
  dsimp only
  refine w.publishItem_conducts.trans ?_
  split
  case isTrue =>
    split
    · exact refreshNotification_conducts _
    · exact .refl _
  case isFalse =>
    refine .trans ?_ (publishState_conducts _ _)
    refine .trans ?_ (refreshNotification_conducts _)
    split
    · refine .trans ?_ (releaseWakeLock_conducts _)
      exact .deedless [] rfl rfl rfl
    · exact .deedless [] rfl rfl rfl

/-- Whatever a message asks for, a turn is made of orderly steps. -/
theorem turn_conducts (w : World σ L) (m : Message) : Conducts true w (w.turn m) :=
  (w.log_conducts ..).trans ((handle_conducts _ m).trans (publish_conducts _))

theorem startUp_conducts (w : World σ L) : Conducts loud w w.startUp := by
  have output : Conducts loud w w.subscribeOutput := by
    unfold subscribeOutput
    obtain ⟨result, outside, h⟩ := w.exists_call .subscribeOutput
    rw [h]
    cases result with
    | ok => exact .deedless [_] rfl rfl rfl
    | error => exact .deedless [_, _] rfl rfl rfl
  have focus : ∀ w' : World σ L, Conducts loud w' w'.subscribeFocus := by
    intro w'
    unfold subscribeFocus
    obtain ⟨result, outside, h⟩ := w'.exists_call .subscribeFocus
    rw [h]
    cases result with
    | ok => exact .deedless [_] rfl rfl rfl
    | error => exact .deedless [_, _] rfl rfl rfl
  exact output.trans ((focus _).trans (log_conducts _ ..))

theorem teardown_conducts (w : World σ L) : Conducts loud w w.teardown :=
  w.reset_conducts.trans ((publish_conducts _).trans (log_conducts _ ..))

end World
end MediaPlayback
