import MediaPlayback.Proofs.Engine.Change

/-! The outcomes of a turn. `Engine.Handles` says what the engine can become when it handles a
message, with the host's answers left open, and every turn of a world is one of its cases. -/

namespace MediaPlayback

namespace Engine

/-- What a request for playback leads to. -/
inductive Plays (e : Engine) : Engine → Prop where
  | resumed {item : Item} {session : SessionId} {e' : Engine}
    (paused : e.mode = .paused item session)
    (resumes : Resumes { e with focusPaused := false } item session e') : Plays e e'
  | awaited {item : Item} {request : PrepareRequest}
    (preparing : e.mode = .preparing item request) :
    Plays e { e with focusPaused := false, mode := .preparing item request.resume }
  | started {item : Item} (idle : e.mode = .idle) (current : e.cursor.currentItem? = some item) :
    Plays e (e.started item true none)
  | nothing (idle : e.mode = .idle) (empty : e.cursor.currentItem? = none) :
    Plays e { e with focusPaused := false }
  | playing {item : Item} {session : SessionId} (playing : e.mode = .playing item session) :
    Plays e { e with focusPaused := false }

/-- The engine with its cursor on an item, if the cursor has it. -/
def pointedAt (e : Engine) (item : Item) : Engine :=
  match e.cursor.indexOf? item with
  | some index => e.pointed index
  | none => e

/-- The engine with a new playlist, for which shuffle may have drawn some words. -/
def withPlaylist (e : Engine) (playlist : Playlist) (words : Entropy) : Engine :=
  { e with cursor := (e.cursor.setPlaylist playlist words).1 }

/-- What the engine can become by handling a message. -/
inductive Handles (e : Engine) : Message → Engine → Prop where
  | play {e' : Engine} (plays : e.Plays e') : Handles e .play e'
  | playItemInside {item : Item} {index : Nat} (found : e.cursor.indexOf? item = some index) :
    Handles e (.playItem item) ((e.pointed index).started item true none)
  | playItemOutside {item : Item} (catalog : Catalog) (words : Entropy)
    (absent : e.cursor.indexOf? item = none) :
    Handles e (.playItem item)
      ((e.withPlaylist (.single catalog item) words).started item true none)
  | pause {e' : Engine} (pauses : Pauses { e with focusPaused := false } e') : Handles e .pause e'
  | togglePause {e' : Engine} (wanted : e.mode.wantsPlayback)
    (pauses : Pauses { e with focusPaused := false } e') : Handles e .toggle e'
  | togglePlay {e' : Engine} (unwanted : e.mode.wantsPlayback = false) (plays : e.Plays e') :
    Handles e .toggle e'
  | forward : Handles e .forward (e.navigated true)
  | backward : Handles e .backward (e.navigated false)
  | reset : Handles e .reset e.cleared
  | seekLive {position : Duration} {session : SessionId} (live : e.mode.session? = some session) :
    Handles e (.seek position) e
  | seekAwaited {position : Duration} {item : Item} {request : PrepareRequest}
    (preparing : e.mode = .preparing item request) :
    Handles e (.seek position)
      { e with mode := .preparing item { request with seekTo := some position } }
  | seekStarted {position : Duration} {item : Item} (idle : e.mode = .idle)
    (current : e.cursor.currentItem? = some item) :
    Handles e (.seek position) (e.started item false (some position))
  | seekNothing {position : Duration} (idle : e.mode = .idle)
    (empty : e.cursor.currentItem? = none) : Handles e (.seek position) e
  | setRepeatMode {mode : RepeatMode} :
    Handles e (.setRepeatMode mode) { e with cursor := e.cursor.setRepeatMode mode }
  | setShuffle {shuffled : Bool} (words : Entropy) :
    Handles e (.setShuffle shuffled) { e with cursor := (e.cursor.setShuffled shuffled words).1 }
  | reselected {item active : Item} {playlist : Playlist} {session : SessionId} {e' : Engine}
    (paused : e.mode = .paused active session) (same : active.Same item)
    (resumes : Resumes e active session e') : Handles e (.playInPlaylist item playlist) e'
  | reselectedAwaited {item active : Item} {playlist : Playlist} {request : PrepareRequest}
    (preparing : e.mode = .preparing active request) (same : active.Same item) :
    Handles e (.playInPlaylist item playlist)
      { e with mode := .preparing active request.resume }
  | reselectedPlaying {item active : Item} {playlist : Playlist} {session : SessionId}
    (playing : e.mode = .playing active session) (same : active.Same item) :
    Handles e (.playInPlaylist item playlist) e
  | chosen {item : Item} {playlist : Playlist} (words : Entropy)
    (other : e.mode.item?.any (·.Same item) = false) (member : playlist.contains item) :
    Handles e (.playInPlaylist item playlist)
      (((e.withPlaylist playlist words).pointedAt item).started item true none)
  | notChosen {item : Item} {playlist : Playlist}
    (other : e.mode.item?.any (·.Same item) = false) (absent : playlist.contains item = false) :
    Handles e (.playInPlaylist item playlist) e
  | setPlaylist {playlist : Playlist} (words : Entropy) (inactive : e.mode.item? = none) :
    Handles e (.setPlaylist playlist) (e.withPlaylist playlist words)
  | setPlaylistAround {playlist : Playlist} {item : Item} {index : Nat} (words : Entropy)
    (active : e.mode.item? = some item)
    (found : (e.withPlaylist playlist words).cursor.indexOf? item = some index) :
    Handles e (.setPlaylist playlist) ((e.withPlaylist playlist words).pointed index)
  | setPlaylistWithout {playlist : Playlist} {item : Item} (words : Entropy)
    (active : e.mode.item? = some item)
    (absent : (e.withPlaylist playlist words).cursor.indexOf? item = none) :
    Handles e (.setPlaylist playlist) (e.withPlaylist playlist words).stopped
  | indexOutside {index : Nat} {failure : PlaybackError}
    (outside : e.cursor.setIndex index = .error failure) : Handles e (.setIndex index) e
  | indexOnly {index : Nat} {cursor : Cursor} (inside : e.cursor.setIndex index = .ok cursor)
    (quiet : cursor.currentItem? = none ∨ e.mode = .idle ∨
      ∃ item, cursor.currentItem? = some item ∧ e.cursor.currentItem?.any (·.Same item)) :
    Handles e (.setIndex index) { e with cursor }
  | indexStarted {index : Nat} {cursor : Cursor} {item : Item}
    (inside : e.cursor.setIndex index = .ok cursor) (current : cursor.currentItem? = some item)
    (other : e.cursor.currentItem?.any (·.Same item) = false) (active : e.mode ≠ .idle) :
    Handles e (.setIndex index) ({ e with cursor }.started item e.mode.wantsPlayback none)
  | snapshot : Handles e .snapshot e
  | progress : Handles e .progress e
  | preparedLate {id : Nat} {item : Item} {result : Except HostError PreparedSession}
    (late : ∀ active request, e.mode = .preparing active request → request.id ≠ id) :
    Handles e (.prepared id item result) e
  | preparedFailed {id : Nat} {item active : Item} {request : PrepareRequest} {failure : HostError}
    (preparing : e.mode = .preparing active request) (current : request.id = id) :
    Handles e (.prepared id item (.error failure)) e.stopped
  | preparedHeld {id : Nat} {item active : Item} {request : PrepareRequest}
    {prepared : PreparedSession} (preparing : e.mode = .preparing active request)
    (current : request.id = id) (held : request.autoplay = false) :
    Handles e (.prepared id item (.ok prepared))
      { e with mode := .paused item prepared.session, live := some prepared.session }
  | preparedBegun {id : Nat} {item active : Item} {request : PrepareRequest}
    {prepared : PreparedSession} {e' : Engine} (preparing : e.mode = .preparing active request)
    (current : request.id = id) (autoplay : request.autoplay = true)
    (begins : Begins { e with mode := .idle, live := some prepared.session } item
      prepared.session e') :
    Handles e (.prepared id item (.ok prepared)) e'
  | outputStale {event : OutputEvent} (stale : e.mode.session? ≠ some event.session) :
    Handles e (.output event) e
  | outputFailed {session : SessionId} {message : String}
    (live : e.mode.session? = some session) : Handles e (.output (.failed session message)) e
  | replayed {item : Item} {session : SessionId} (live : e.mode.session? = some session)
    (active : e.mode.item? = some item) (again : e.cursor.repeatMode = .item) :
    Handles e (.output (.completed session)) { e with mode := .playing item session }
  | recreated {item : Item} {session : SessionId} (live : e.mode.session? = some session)
    (active : e.mode.item? = some item) (again : e.cursor.repeatMode = .item) :
    Handles e (.output (.completed session)) (e.started item true none)
  | advanced {session : SessionId} (live : e.mode.session? = some session)
    (once : e.cursor.repeatMode ≠ .item) (more : e.cursor.canForward) :
    Handles e (.output (.completed session)) (e.navigated true)
  | finished {session : SessionId} (live : e.mode.session? = some session)
    (once : e.cursor.repeatMode ≠ .item) (last : e.cursor.canForward = false) :
    Handles e (.output (.completed session)) e.cleared
  | lostPlaying {item : Item} {session : SessionId} {e' : Engine}
    (playing : e.mode = .playing item session)
    (pauses : Pauses { e with focusPaused := false } e') :
    Handles e (.focus .lost) { e' with hasFocus := false }
  | lost (silent : ∀ item session, e.mode ≠ .playing item session) :
    Handles e (.focus .lost) { e with focusPaused := false, hasFocus := false }
  | lostTransientPlaying {item : Item} {session : SessionId} {e' : Engine}
    (playing : e.mode = .playing item session) (pauses : Pauses e e') :
    Handles e (.focus .lostTransient) { e' with focusPaused := true }
  | lostTransient (silent : ∀ item session, e.mode ≠ .playing item session) :
    Handles e (.focus .lostTransient) e
  | gainedPaused {item : Item} {session : SessionId} {e' : Engine} (waits : e.focusPaused)
    (paused : e.mode = .paused item session)
    (resumes : Resumes { e with focusPaused := false } item session e') :
    Handles e (.focus .gained) e'
  | gained (idle : e.focusPaused = false ∨ ∀ item session, e.mode ≠ .paused item session) :
    Handles e (.focus .gained) { e with focusPaused := false }
  | background (lock shown : Bool)
    (quiet : e.mode.reported = .stopped → lock = e.holdsWakeLock ∧ shown = e.shown) :
    Handles e (.lifecycle .becameBackground)
      { e with backgrounded := true, holdsWakeLock := lock, shown }
  | foreground :
    Handles e (.lifecycle .becameForeground)
      { e with backgrounded := false, holdsWakeLock := false, shown := false }
  | tick : Handles e .tick e
  | shutdown : Handles e .shutdown e

/-- The item that counts as published once the current one was looked at. -/
def announcedItem (e : Engine) : Option Item :=
  if Item.SameOption e.cursor.currentItem? e.lastItem then e.lastItem else e.cursor.currentItem?

/-- The engine after it published what changed. Whether the notification is shown is up to the host;
an engine that stopped gave up the wake lock. -/
def published (e : Engine) (shown : Bool) : Engine :=
  { e with
    holdsWakeLock :=
      if e.mode.reported = .stopped ∧ e.lastState ≠ .stopped then false else e.holdsWakeLock
    shown
    lastState := e.mode.reported
    lastItem := e.announcedItem }

end Engine

namespace World

variable {σ L : Type} [Surroundings σ L]

theorem play_engine (w : World σ L) : w.engine.Plays w.play.engine := by
  unfold play
  dsimp only
  split
  case h_1 item session paused =>
    exact .resumed paused (resume_engine (w.setFocusPaused false) item session)
  case h_2 item request preparing => exact .awaited preparing
  case h_3 idle =>
    split
    case h_1 item current =>
      rw [start_engine]
      exact .started idle current
    case h_2 empty => exact .nothing idle empty
  case h_4 item session playing => exact .playing playing

theorem playItem_engine (w : World σ L) (item : Item) :
    w.engine.Handles (.playItem item) (w.playItem item).engine := by
  unfold playItem
  dsimp only
  rw [start_engine]
  split
  case h_1 index found =>
    rw [moveCursor_engine]
    exact .playItemInside found
  case h_2 absent => exact .playItemOutside w.catalog w.entropy absent

theorem pauseByUser_engine (w : World σ L) :
    Engine.Pauses { w.engine with focusPaused := false } w.pauseByUser.engine :=
  pause_engine (w.setFocusPaused false)

theorem toggle_engine (w : World σ L) : w.engine.Handles .toggle w.toggle.engine := by
  unfold toggle
  split
  case isTrue wanted => exact .togglePause wanted w.pauseByUser_engine
  case isFalse unwanted => exact .togglePlay (by simpa using unwanted) w.play_engine

@[simp] theorem seekWithin_engine (w : World σ L) (session : SessionId) (position : Duration) :
    (w.seekWithin session position).engine = w.engine := by
  obtain ⟨result, outside, call⟩ := w.exists_call (.seek session position)
  rw [seekWithin, seekSession, call]
  cases result <;> rfl

theorem seek_engine (w : World σ L) (position : Duration) :
    w.engine.Handles (.seek position) (w.seek position).engine := by
  unfold seek
  split
  case h_1 item session playing =>
    rw [seekWithin_engine]
    exact .seekLive (congrArg Mode.session? playing)
  case h_2 item session paused =>
    rw [seekWithin_engine]
    exact .seekLive (congrArg Mode.session? paused)
  case h_3 item request preparing => exact .seekAwaited preparing
  case h_4 idle =>
    split
    case h_1 item current =>
      rw [start_engine]
      exact .seekStarted idle current
    case h_2 empty => exact .seekNothing idle empty

theorem playInPlaylist_engine (w : World σ L) (item : Item) (playlist : Playlist) :
    w.engine.Handles (.playInPlaylist item playlist) (w.playInPlaylist item playlist).engine := by
  unfold playInPlaylist
  split
  case isTrue active =>
    split
    case h_1 current session paused =>
      exact .reselected paused (by simpa [paused, Mode.item?] using active) (w.resume_engine _ _)
    case h_2 current request preparing =>
      exact .reselectedAwaited preparing (by simpa [preparing, Mode.item?] using active)
    case h_3 paused preparing =>
      cases mode : w.engine.mode with
      | idle => simp [mode, Mode.item?] at active
      | preparing item request => exact absurd mode (preparing item request)
      | playing item session =>
        exact .reselectedPlaying mode (by simpa [mode, Mode.item?] using active)
      | paused item session => exact absurd mode (paused item session)
  case isFalse other =>
    have other : w.engine.mode.item?.any (·.Same item) = false := by simpa using other
    split
    case isTrue member =>
      dsimp only
      rw [start_engine]
      have chosen := Engine.Handles.chosen w.entropy other member
      have cursor : (w.setPlaylistOf playlist).engine.cursor =
          (w.engine.withPlaylist playlist w.entropy).cursor := rfl
      unfold Engine.pointedAt at chosen
      rw [cursor]
      split
      case h_1 index found =>
        rw [moveCursor_engine]
        rw [found] at chosen
        exact chosen
      case h_2 absent =>
        rw [absent] at chosen
        exact chosen
    case isFalse absent => exact .notChosen other (by simpa using absent)

theorem setPlaylist_engine (w : World σ L) (playlist : Playlist) :
    w.engine.Handles (.setPlaylist playlist) (w.setPlaylist playlist).engine := by
  unfold setPlaylist
  dsimp only
  split
  case h_1 inactive => exact .setPlaylist w.entropy inactive
  case h_2 item active =>
    split
    case h_1 index found =>
      rw [moveCursor_engine]
      exact .setPlaylistAround w.entropy active found
    case h_2 absent =>
      rw [stop_engine]
      exact .setPlaylistWithout w.entropy active absent

theorem setIndex_engine (w : World σ L) (index : Nat) :
    w.engine.Handles (.setIndex index) (w.setIndex index).2.engine := by
  unfold setIndex
  dsimp only
  split
  case h_1 failure outside => exact .indexOutside outside
  case h_2 cursor inside =>
    split
    case h_1 empty => exact .indexOnly inside (.inl empty)
    case h_2 item current =>
      split
      case isTrue same => exact .indexOnly inside (.inr (.inr ⟨item, current, same⟩))
      case isFalse other =>
        split
        case isTrue idle => exact .indexOnly inside (.inr (.inl idle))
        case isFalse active =>
          rw [start_engine]
          exact .indexStarted inside current (by simpa using other) active

@[simp] theorem seekPrepared_engine (w : World σ L) (session : SessionId)
    (seekTo : Option Duration) : (w.seekPrepared session seekTo).engine = w.engine := by
  unfold seekPrepared
  split
  case h_1 => rfl
  case h_2 position =>
    obtain ⟨result, outside, call⟩ := w.exists_call (.seek session position)
    rw [seekSession, call]
    cases result <;> rfl

/-- The answer that is awaited settles what was asked for. -/
theorem onPrepared_of_awaited (w : World σ L) {request : PrepareRequest} {active : Item}
    (preparing : w.engine.mode = .preparing active request) (item : Item)
    (result : Except HostError PreparedSession) :
    w.onPrepared request.id item result = w.settlePrepared request item result := by
  rw [onPrepared, preparing]
  exact if_pos rfl

theorem settlePrepared_engine (w : World σ L) {active : Item} {request : PrepareRequest} {id : Nat}
    (preparing : w.engine.mode = .preparing active request) (current : request.id = id)
    (item : Item) (result : Except HostError PreparedSession) :
    w.engine.Handles (.prepared id item result) (w.settlePrepared request item result).engine := by
  cases result with
  | error failure =>
    have failed : (w.settlePrepared request item (.error failure)).engine = w.engine.stopped := by
      simp [settlePrepared, Engine.stopped]
    rw [failed]
    exact .preparedFailed preparing current
  | ok prepared =>
    unfold settlePrepared
    dsimp only
    have adopted : ∀ w' : World σ L, w'.engine = ((w.setMode .idle).adopt prepared.session).engine →
        (w'.seekPrepared prepared.session request.seekTo).engine =
          { w.engine with mode := .idle, live := some prepared.session } := by
      intro w' same
      rw [seekPrepared_engine, same, adopt_engine]
      rfl
    have settled : ∀ w' : World σ L,
        w'.engine = { w.engine with mode := .idle, live := some prepared.session } →
        w.engine.Handles (.prepared id item (.ok prepared))
          (if request.autoplay then w'.begin item prepared.session
            else w'.setMode (.paused item prepared.session)).engine := by
      intro w' same
      split
      case isTrue autoplay =>
        have begins := w'.begin_engine item prepared.session
        rw [same] at begins
        exact .preparedBegun preparing current autoplay begins
      case isFalse held =>
        rw [setMode_engine, same]
        exact .preparedHeld preparing current (by simpa using held)
    apply settled
    apply adopted
    split <;> rfl

@[simp] theorem discardPrepared_engine (w : World σ L) (id : Nat)
    (result : Except HostError PreparedSession) :
    (w.discardPrepared id result).engine = w.engine := by
  unfold discardPrepared
  cases result with
  | error failure => rfl
  | ok prepared => exact discard_engine _ prepared.session

theorem onPrepared_engine (w : World σ L) (id : Nat) (item : Item)
    (result : Except HostError PreparedSession) :
    w.engine.Handles (.prepared id item result) (w.onPrepared id item result).engine := by
  unfold onPrepared
  split
  case h_1 active request preparing =>
    split
    case isTrue current => exact w.settlePrepared_engine preparing current item result
    case isFalse late =>
      rw [discardPrepared_engine]
      apply Engine.Handles.preparedLate
      intro _ _ preparing'
      cases preparing.symm.trans preparing'
      exact late
  case h_2 other =>
    rw [discardPrepared_engine]
    exact .preparedLate fun active request preparing => absurd preparing (other _ _)

theorem replay_engine (w : World σ L) (session : SessionId) :
    (w.replay session).2.engine = w.engine := by
  unfold replay
  obtain ⟨result, outside, call⟩ := w.exists_call (.seek session .zero)
  rw [seekSession, call]
  cases result <;> rfl

theorem onCompleted_engine (w : World σ L) {item : Item} {session : SessionId}
    (live : w.engine.mode.session? = some session) (active : w.engine.mode.item? = some item) :
    w.engine.Handles (.output (.completed session)) (w.onCompleted item session).engine := by
  unfold onCompleted
  dsimp only
  split
  case isTrue again =>
    have again : w.engine.cursor.repeatMode = .item := again
    rcases h : (w.log .engine .debug "Playback completed" [("file", item.fileName)]).replay session
      with ⟨result, w'⟩
    have same : w'.engine = w.engine := by
      have replayed := replay_engine
        (w.log .engine .debug "Playback completed" [("file", item.fileName)]) session
      rw [h] at replayed
      exact replayed
    cases result with
    | ok =>
      simp only [setMode_engine, same]
      exact .replayed live active again
    | error e =>
      simp only [start_engine, log_engine, same]
      exact .recreated live active again
  case isFalse once =>
    split
    case isTrue more =>
      rw [navigate_engine]
      exact .advanced live once more
    case isFalse last =>
      rw [reset_engine]
      exact .finished live once (by simpa using last)

theorem onLiveOutput_engine (w : World σ L) {item : Item} (event : OutputEvent)
    (live : w.engine.mode.session? = some event.session)
    (active : w.engine.mode.item? = some item) :
    w.engine.Handles (.output event) (w.onLiveOutput item event.session event).engine := by
  cases event with
  | completed session => exact w.onCompleted_engine live active
  | failed session message => exact .outputFailed live

theorem onOutput_engine (w : World σ L) (event : OutputEvent) :
    w.engine.Handles (.output event) (w.onOutput event).engine := by
  have active : ∀ item session, w.engine.mode.session? = some session →
      w.engine.mode.item? = some item →
      w.engine.Handles (.output event)
        (if session = event.session then w.onLiveOutput item session event
          else w.ignoreOutput event).engine := by
    intro item session live active
    split
    case isTrue same =>
      subst same
      exact w.onLiveOutput_engine event live active
    case isFalse other =>
      apply Engine.Handles.outputStale
      rw [live]
      simpa using other
  unfold onOutput
  split
  case h_1 item session playing =>
    exact active item session (congrArg Mode.session? playing) (congrArg Mode.item? playing)
  case h_2 item session paused =>
    exact active item session (congrArg Mode.session? paused) (congrArg Mode.item? paused)
  case h_3 playing paused =>
    apply Engine.Handles.outputStale
    cases mode : w.engine.mode with
    | idle => simp [Mode.session?]
    | preparing => simp [Mode.session?]
    | playing item session => exact absurd mode (playing item session)
    | paused item session => exact absurd mode (paused item session)

omit [Surroundings σ L] in
theorem isPlaying_iff (w : World σ L) :
    w.isPlaying ↔ ∃ item session, w.engine.mode = .playing item session := by
  unfold isPlaying
  cases w.engine.mode <;> simp

theorem onFocus_engine (w : World σ L) (change : FocusChange) :
    w.engine.Handles (.focus change) (w.onFocus change).engine := by
  have noted := w.log_engine .engine .debug "Audio focus changed" [("change", change.name)]
  unfold onFocus
  dsimp only
  generalize w.log .engine .debug "Audio focus changed" [("change", change.name)] = w' at noted ⊢
  rw [← noted]
  have silent : ¬ w'.isPlaying = true → ∀ item session, w'.engine.mode ≠ .playing item session :=
    fun still item session playing => still (w'.isPlaying_iff.mpr ⟨item, session, playing⟩)
  cases change with
  | lost =>
    dsimp only
    rw [releaseFocus_engine]
    split
    case isTrue on =>
      obtain ⟨item, session, playing⟩ := w'.isPlaying_iff.mp on
      exact .lostPlaying playing (w'.setFocusPaused false).pause_engine
    case isFalse still => exact .lost (silent still)
  | lostTransient =>
    dsimp only
    split
    case isTrue on =>
      obtain ⟨item, session, playing⟩ := w'.isPlaying_iff.mp on
      exact .lostTransientPlaying playing w'.pause_engine
    case isFalse still => exact .lostTransient (silent still)
  | gained =>
    dsimp only
    split
    case isTrue waits =>
      split
      case h_1 item session paused =>
        exact .gainedPaused waits paused ((w'.setFocusPaused false).resume_engine item session)
      case h_2 other => exact .gained (.inr other)
    case isFalse idle =>
      have idle : w'.engine.focusPaused = false := by simpa using idle
      have gained := Engine.Handles.gained (e := w'.engine) (.inl idle)
      rw [← idle] at gained
      exact gained

theorem onLifecycle_engine (w : World σ L) (event : LifecycleEvent) :
    w.engine.Handles (.lifecycle event) (w.onLifecycle event).engine := by
  unfold onLifecycle
  cases event with
  | becameBackground =>
    dsimp only
    split
    case isTrue quiet =>
      exact .background w.engine.holdsWakeLock w.engine.shown fun _ => ⟨rfl, rfl⟩
    case isFalse active =>
      generalize seen :
        screenOn { w with engine := { w.engine with backgrounded := true } } = answer
      obtain ⟨on, w'⟩ := answer
      have same : w'.engine = { w.engine with backgrounded := true } := by
        have kept := screenOn_engine { w with engine := { w.engine with backgrounded := true } }
        rw [seen] at kept
        exact kept
      obtain ⟨shown, shows⟩ := refreshNotification_engine (if on then w'.acquireWakeLock else w')
      obtain ⟨lock, locks⟩ : ∃ lock, (if on then w'.acquireWakeLock else w').engine =
          { w.engine with backgrounded := true, holdsWakeLock := lock } := by
        cases on with
        | true =>
          obtain ⟨lock, locks⟩ := w'.acquireWakeLock_engine
          rw [same] at locks
          exact ⟨lock, locks⟩
        | false => exact ⟨w.engine.holdsWakeLock, same⟩
      rw [shows, locks]
      exact .background lock shown fun stopped => absurd stopped active
  | becameForeground =>
    dsimp only
    rw [hideNotification_engine, releaseWakeLock_engine]
    exact .foreground

@[simp] theorem onTick_engine (w : World σ L) : w.onTick.engine = w.engine := by
  unfold onTick
  split
  case h_1 item session playing =>
    have same := w.sessionPosition_engine session
    split
    case h_1 w' position => rw [position] at same; exact same
    case h_2 position w' known => rw [known] at same; exact same
  case h_2 => rfl

@[simp] theorem progress_engine (w : World σ L) : w.progress.2.engine = w.engine := by
  unfold progress
  split
  case h_1 session live => exact w.sessionPosition_engine session
  case h_2 => rfl

/-- The engine becomes nothing but what `Engine.Handles` allows. -/
theorem handle_engine (w : World σ L) (m : Message) : w.engine.Handles m (w.handle m).engine := by
  cases m with
  | play => exact .play w.play_engine
  | playItem item => exact w.playItem_engine item
  | pause => exact .pause w.pauseByUser_engine
  | toggle => exact w.toggle_engine
  | forward =>
    rw [handle, navigate_engine]
    exact .forward
  | backward =>
    rw [handle, navigate_engine]
    exact .backward
  | reset =>
    rw [handle, reset_engine]
    exact .reset
  | seek position => exact w.seek_engine position
  | setRepeatMode mode => exact .setRepeatMode
  | setShuffle shuffled => exact .setShuffle w.entropy
  | playInPlaylist item playlist => exact w.playInPlaylist_engine item playlist
  | setPlaylist playlist => exact w.setPlaylist_engine playlist
  | setIndex index => exact w.setIndex_engine index
  | snapshot => exact .snapshot
  | progress =>
    rw [handle]
    dsimp only
    rw [reply_engine, progress_engine]
    exact .progress
  | prepared request item result => exact w.onPrepared_engine request item result
  | output event => exact w.onOutput_engine event
  | focus change => exact w.onFocus_engine change
  | lifecycle event => exact w.onLifecycle_engine event
  | tick =>
    rw [handle, onTick_engine]
    exact .tick
  | shutdown => exact .shutdown

@[simp] theorem publishItem_engine (w : World σ L) :
    w.publishItem.engine = { w.engine with lastItem := w.engine.announcedItem } := by
  unfold publishItem Engine.announcedItem
  dsimp only
  split
  case isTrue => rfl
  case isFalse => simp

@[simp] theorem publishState_engine (w : World σ L) (state : PlaybackState) :
    (w.publishState state).engine = w.engine := by
  simp [publishState]

theorem publish_engine (w : World σ L) : ∃ shown, w.publish.engine = w.engine.published shown := by
  unfold Engine.published
  unfold publish
  dsimp only
  rw [publishItem_engine]
  split
  case isTrue same =>
    have same : w.engine.mode.reported = w.engine.lastState := same
    have awake : ¬ (w.engine.mode.reported = .stopped ∧ w.engine.lastState ≠ .stopped) :=
      fun stopped => stopped.2 (same ▸ stopped.1)
    rw [if_neg awake, same]
    split
    case isTrue =>
      obtain ⟨shown, shows⟩ := w.publishItem.refreshNotification_engine
      exact ⟨shown, by rw [shows, publishItem_engine]⟩
    case isFalse => exact ⟨w.engine.shown, by rw [publishItem_engine]⟩
  case isFalse changed =>
    have changed : w.engine.mode.reported ≠ w.engine.lastState := changed
    dsimp only
    rw [publishState_engine]
    split
    case isTrue stopped =>
      have stopped : w.engine.mode.reported = .stopped := stopped
      have before : w.engine.lastState ≠ .stopped := fun same => changed (stopped.trans same.symm)
      obtain ⟨shown, shows⟩ := refreshNotification_engine (releaseWakeLock { w.publishItem with
        engine := { w.publishItem.engine with lastState := w.engine.mode.reported } })
      refine ⟨shown, ?_⟩
      rw [if_pos ⟨stopped, before⟩]
      simpa using shows
    case isFalse playing =>
      have playing : w.engine.mode.reported ≠ .stopped := playing
      obtain ⟨shown, shows⟩ := refreshNotification_engine { w.publishItem with
        engine := { w.publishItem.engine with lastState := w.engine.mode.reported } }
      refine ⟨shown, ?_⟩
      rw [if_neg fun stopped => playing stopped.1]
      simpa using shows

/-- The engine becomes nothing but what `Engine.Handles` allows, and then it publishes what
changed. -/
theorem turn_engine (w : World σ L) (m : Message) :
    ∃ e' shown, w.engine.Handles m e' ∧ (w.turn m).engine = e'.published shown := by
  have handles := (w.log .engine .trace "Engine command" [("command", m.name)]).handle_engine m
  obtain ⟨shown, publishes⟩ :=
    ((w.log .engine .trace "Engine command" [("command", m.name)]).handle m).publish_engine
  exact ⟨_, shown, handles, publishes⟩

theorem exists_subscribeOutput (w : World σ L) :
    ∃ outside trace, w.subscribeOutput = { w with outside, trace } := by
  unfold subscribeOutput
  obtain ⟨result, outside, h⟩ := w.exists_call .subscribeOutput
  rw [h]
  cases result <;> exact ⟨_, _, rfl⟩

theorem exists_subscribeFocus (w : World σ L) :
    ∃ outside trace, w.subscribeFocus = { w with outside, trace } := by
  unfold subscribeFocus
  obtain ⟨result, outside, h⟩ := w.exists_call .subscribeFocus
  rw [h]
  cases result <;> exact ⟨_, _, rfl⟩

/-- Starting up changes nothing inside but the trace. -/
theorem exists_startUp (w : World σ L) :
    ∃ outside trace, w.startUp = { w with outside, trace } := by
  obtain ⟨_, _, output⟩ := w.exists_subscribeOutput
  obtain ⟨_, _, focus⟩ := w.subscribeOutput.exists_subscribeFocus
  rw [startUp, focus, output]
  exact ⟨_, _, rfl⟩

theorem teardown_engine (w : World σ L) :
    ∃ shown, w.teardown.engine = w.engine.cleared.published shown := by
  obtain ⟨shown, publishes⟩ := w.reset.publish_engine
  rw [reset_engine] at publishes
  exact ⟨shown, publishes⟩

end World
end MediaPlayback
