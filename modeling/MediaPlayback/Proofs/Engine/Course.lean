import MediaPlayback.Proofs.Engine.Coherence
import MediaPlayback.Proofs.Engine.Passage

/-! The course of a turn: whatever the message and the host's answers, a turn takes the engine's
holding along a lawful course. A prepared session that is handed to the engine is adopted or
unloaded in the same turn, unless it is the live one already. -/

namespace MediaPlayback

/-- The session that a message hands over. -/
def Message.handed? : Message → Option SessionId
  | .prepared _ _ (.ok answer) => some answer.session
  | _ => none

/-- Whether a message is the answer to a prepare. -/
def Message.isAnswer : Message → Bool
  | .prepared .. => true
  | _ => false

theorem Message.isAnswer_of_isCommand {m : Message} (command : m.isCommand) :
    m.isAnswer = false := by
  cases m with
  | prepared => contradiction
  | _ => rfl

theorem Message.handed?_eq_none {m : Message} (plain : m.isAnswer = false) : m.handed? = none := by
  cases m with
  | prepared => contradiction
  | _ => rfl

namespace World

variable {σ L : Type} [Surroundings σ L] {hand : Option SessionId}

omit [Surroundings σ L] in
theorem log_leads (w : World σ L) (source : LogSource) (level : LogLevel) (message : String)
    (fields : List (String × String)) : Leads hand w hand (w.log source level message fields) :=
  .mutters (w.log_mutters ..) rfl

omit [Surroundings σ L] in
theorem emit_leads (w : World σ L) (event : PlaybackEvent) : Leads hand w hand (w.emit event) :=
  .mutters (w.emit_mutters event) rfl

omit [Surroundings σ L] in
theorem reply_leads (w : World σ L) (r : Reply) : Leads hand w hand (w.reply r) :=
  .mutters (.of [_] rfl rfl rfl) rfl

omit [Surroundings σ L] in
theorem setFocusPaused_leads (w : World σ L) (focusPaused : Bool) :
    Leads hand w hand (w.setFocusPaused focusPaused) :=
  .mutters (.of [] rfl rfl rfl) rfl

omit [Surroundings σ L] in
theorem setCursor_leads (w : World σ L) (cursor : Cursor) :
    Leads hand w hand (w.setCursor cursor) :=
  .mutters (.of [] rfl rfl rfl) rfl

omit [Surroundings σ L] in
theorem setPlaylistOf_leads (w : World σ L) (playlist : Playlist) :
    Leads hand w hand (w.setPlaylistOf playlist) :=
  .mutters (.of [] rfl rfl rfl) rfl

omit [Surroundings σ L] in
theorem moveCursor_leads (w : World σ L) (index : Nat) :
    Leads hand w hand (w.moveCursor index) := by
  refine .mutters (w.moveCursor_mutters index) ?_
  unfold moveCursor
  split <;> rfl

omit [Surroundings σ L] in
theorem emitFailure_leads (w : World σ L) (item : Item) (failure : PlaybackError) :
    Leads hand w hand (w.emitFailure item failure) :=
  emit_leads w _

omit [Surroundings σ L] in
theorem denyFocus_leads (w : World σ L) (item : Item) : Leads hand w hand (w.denyFocus item) :=
  (log_leads w ..).trans (emit_leads _ _)

theorem releaseWakeLock_leads (w : World σ L) : Leads hand w hand w.releaseWakeLock :=
  .mutters w.releaseWakeLock_mutters (by rw [releaseWakeLock_engine]; rfl)

theorem hideNotification_leads (w : World σ L) : Leads hand w hand w.hideNotification :=
  .mutters w.hideNotification_mutters (by rw [hideNotification_engine]; rfl)

theorem stop_leads (w : World σ L) : Leads hand w hand w.stop :=
  (Leads.setMode w (.inl rfl)).trans <|
    (setFocusPaused_leads _ false).trans <|
      (destroyOutput_leads _ none).trans (releaseFocus_leads _)

theorem fail_leads (w : World σ L) (item : Item) (failure : PlaybackError) :
    Leads hand w hand (w.fail item failure) :=
  (log_leads w ..).trans ((emitFailure_leads _ item failure).trans (stop_leads _))

theorem releaseAll_leads (w : World σ L) : Leads hand w hand w.releaseAll :=
  (destroyOutput_leads w none).trans
    ((releaseFocus_leads _).trans (releaseWakeLock_leads _))

theorem reset_leads (w : World σ L) : Leads hand w hand w.reset :=
  (Leads.setMode w (.inl rfl)).trans <|
    (setFocusPaused_leads _ false).trans <|
      (releaseAll_leads _).trans <|
        (setCursor_leads _ _).trans (hideNotification_leads _)

theorem start_leads (w : World σ L) (item : Item) (autoplay : Bool) (seekTo : Option Duration) :
    Leads hand w hand (w.start item autoplay seekTo) := by
  have id := w.engine.startRequest_id autoplay seekTo
  unfold Leads
  rw [start_engine]
  unfold start Engine.started
  dsimp only
  generalize w.engine.startRequest autoplay seekTo = request at id
  -- The request is numbered before the live session is unloaded.
  generalize numbered : log { w with
      engine := { w.engine with focusPaused := false, lastRequest := request.id } }
    .engine .debug "Preparing output primitive" [("request_id", toString request.id),
      ("file", baseName item.path.text), ("autoplay", toString autoplay)] = w'
  have noted : w.Mutters w' := by
    rw [← numbered]
    exact .of [_] rfl rfl rfl
  have unloaded := w'.destroyOutput_passes replacing (h := w.engine.holding hand)
    (by rw [← numbered]; rfl)
  refine .trans (.mutters noted _) (unloaded.trans ?_)
  exact ⟨[_], rfl, rfl, Holding.Comes.refl.step (.started id)⟩

theorem begin_leads (w : World σ L) (item : Item) {session : SessionId}
    (live : w.engine.live = some session) : Leads hand w hand (w.begin item session) := by
  have focus : Leads hand w hand _ := w.acquireFocus_leads
  have engine := w.acquireFocus_engine
  unfold begin
  rcases h : w.acquireFocus with ⟨_ | _, w'⟩ <;> rw [h] at focus engine <;> dsimp only
  · refine focus.trans ((denyFocus_leads _ item).trans ?_)
    exact (destroyOutput_leads _ none).trans (.setMode _ (.inl rfl))
  · have live' : w'.engine.live = some session := by rw [engine]; exact live
    have played : Leads hand w' hand _ := playSession_leads w' live'
    refine focus.trans ?_
    rcases h' : w'.playSession session with ⟨_ | _, w''⟩ <;> rw [h'] at played <;> dsimp only
    · exact played.trans (fail_leads _ item _)
    · exact played.trans (.setMode _ (.inl rfl))

theorem resume_leads (w : World σ L) (item : Item) {session : SessionId}
    (live : w.engine.live = some session) : Leads hand w hand (w.resume item session) := by
  have focus : Leads hand w hand _ := w.acquireFocus_leads
  have engine := w.acquireFocus_engine
  unfold resume
  rcases h : w.acquireFocus with ⟨_ | _, w'⟩ <;> rw [h] at focus engine <;> dsimp only
  · exact focus.trans ((denyFocus_leads _ item).trans (.setMode _ (.inl rfl)))
  · have live' : w'.engine.live = some session := by rw [engine]; exact live
    have played : Leads hand w' hand _ := playSession_leads w' live'
    refine focus.trans ?_
    rcases h' : w'.playSession session with ⟨_ | _, w''⟩ <;> rw [h'] at played <;> dsimp only
    · exact played.trans (fail_leads _ item _)
    · exact played.trans (.setMode _ (.inl rfl))

theorem pause_leads (w : World σ L) (coherent : w.engine.Coherent) : Leads hand w hand w.pause := by
  unfold pause
  split
  case h_1 item session playing =>
    have live : w.engine.live = some session := coherent.live.trans (by rw [playing]; rfl)
    have paused : Leads hand w hand _ := pauseSession_leads w live
    rcases h : w.pauseSession session with ⟨_ | _, w'⟩ <;> rw [h] at paused <;> dsimp only
    · exact paused.trans (fail_leads _ item _)
    · exact paused.trans (.setMode _ (.inl rfl))
  case h_2 item request preparing =>
    exact .setMode w (.inr (by rw [preparing]; rfl))
  case h_3 => exact .refl w

theorem navigate_leads (w : World σ L) (ahead : Bool) : Leads hand w hand (w.navigate ahead) := by
  unfold navigate
  dsimp only
  generalize (if ahead then w.engine.cursor.forward else w.engine.cursor.backward) = moved
  refine (setCursor_leads w moved.2).trans ?_
  split
  · exact .refl _
  · split
    · exact start_leads _ _ true none
    · exact (log_leads _ ..).trans (reset_leads _)

theorem play_leads (w : World σ L) (coherent : w.engine.Coherent) : Leads hand w hand w.play := by
  unfold play
  dsimp only
  refine (setFocusPaused_leads w false).trans ?_
  split
  case h_1 item session paused =>
    exact resume_leads _ item (coherent.live.trans (congrArg Mode.session? paused))
  case h_2 item request preparing => exact .setMode _ (.inr (by rw [preparing]; rfl))
  case h_3 idle =>
    split
    · exact start_leads _ _ true none
    · exact log_leads _ ..
  case h_4 => exact .refl _

theorem playItem_leads (w : World σ L) (item : Item) : Leads hand w hand (w.playItem item) := by
  unfold playItem
  dsimp only
  refine .trans ?_ (start_leads _ item true none)
  split
  · exact w.moveCursor_leads _
  · exact w.setPlaylistOf_leads _

theorem pauseByUser_leads (w : World σ L) (coherent : w.engine.Coherent) :
    Leads hand w hand w.pauseByUser :=
  (w.setFocusPaused_leads false).trans (pause_leads _ ⟨coherent.live, coherent.latest⟩)

theorem toggle_leads (w : World σ L) (coherent : w.engine.Coherent) :
    Leads hand w hand w.toggle := by
  unfold toggle
  split
  · exact w.pauseByUser_leads coherent
  · exact w.play_leads coherent

theorem seekWithin_leads (w : World σ L) {session : SessionId} (position : Duration)
    (live : w.engine.live = some session) : Leads hand w hand (w.seekWithin session position) := by
  have sought : Leads hand w hand _ := w.seekSession_leads position live
  unfold seekWithin
  rcases h : w.seekSession session position with ⟨_ | _, w'⟩ <;> rw [h] at sought <;> dsimp only
  · exact sought.trans (log_leads _ ..)
  · exact sought

theorem seek_leads (w : World σ L) (position : Duration) (coherent : w.engine.Coherent) :
    Leads hand w hand (w.seek position) := by
  unfold seek
  split
  case h_1 item session playing =>
    exact w.seekWithin_leads position (coherent.live.trans (congrArg Mode.session? playing))
  case h_2 item session paused =>
    exact w.seekWithin_leads position (coherent.live.trans (congrArg Mode.session? paused))
  case h_3 item request preparing => exact .setMode _ (.inr (by rw [preparing]; rfl))
  case h_4 idle =>
    split
    · exact w.start_leads _ false _
    · exact w.log_leads ..

omit [Surroundings σ L] in
theorem setRepeatMode_leads (w : World σ L) (mode : RepeatMode) :
    Leads hand w hand (w.setRepeatMode mode) :=
  (w.log_leads ..).trans (setCursor_leads _ _)

omit [Surroundings σ L] in
theorem setShuffle_leads (w : World σ L) (shuffled : Bool) :
    Leads hand w hand (w.setShuffle shuffled) :=
  .mutters (.of [_] rfl rfl rfl) rfl

theorem playInPlaylist_leads (w : World σ L) (item : Item) (playlist : Playlist)
    (coherent : w.engine.Coherent) : Leads hand w hand (w.playInPlaylist item playlist) := by
  unfold playInPlaylist
  split
  case isTrue =>
    split
    case h_1 active session paused =>
      exact w.resume_leads active (coherent.live.trans (congrArg Mode.session? paused))
    case h_2 active request preparing => exact .setMode w (.inr (by rw [preparing]; rfl))
    case h_3 => exact .refl w
  case isFalse =>
    split
    case isTrue =>
      dsimp only
      refine .trans ?_ (start_leads _ item true none)
      refine (w.setPlaylistOf_leads playlist).trans ?_
      split
      · exact moveCursor_leads _ _
      · exact .refl _
    case isFalse => exact w.log_leads ..

theorem setPlaylist_leads (w : World σ L) (playlist : Playlist) :
    Leads hand w hand (w.setPlaylist playlist) := by
  unfold setPlaylist
  dsimp only
  refine (w.setPlaylistOf_leads playlist).trans ?_
  split
  · exact .refl _
  · split
    · exact moveCursor_leads _ _
    · exact (log_leads _ ..).trans (stop_leads _)

theorem setIndex_leads (w : World σ L) (index : Nat) :
    Leads hand w hand (w.setIndex index).2 := by
  unfold setIndex
  dsimp only
  split
  case h_1 => exact .refl w
  case h_2 cursor inside =>
    split
    case h_1 => exact w.setCursor_leads cursor
    case h_2 =>
      split
      case isTrue => exact w.setCursor_leads cursor
      case isFalse =>
        split
        case isTrue => exact w.setCursor_leads cursor
        case isFalse => exact (w.setCursor_leads cursor).trans (start_leads _ _ _ none)

theorem progress_leads (w : World σ L) (coherent : w.engine.Coherent) :
    Leads hand w hand w.progress.2 := by
  unfold progress
  split
  case h_1 session live => exact w.sessionPosition_leads (coherent.live.trans live)
  case h_2 => exact .refl w

theorem seekPrepared_leads (w : World σ L) {session : SessionId} (seekTo : Option Duration)
    (live : w.engine.live = some session) : Leads hand w hand (w.seekPrepared session seekTo) := by
  unfold seekPrepared
  split
  case h_1 => exact .refl w
  case h_2 position =>
    have sought : Leads hand w hand _ := w.seekSession_leads position live
    rcases h : w.seekSession session position with ⟨_ | _, w'⟩ <;> rw [h] at sought <;> dsimp only
    · exact sought.trans (log_leads _ ..)
    · exact sought

/-- A prepared session that is awaited is adopted. -/
theorem settlePrepared_leads (w : World σ L) (request : PrepareRequest) (item : Item)
    (prepared : PreparedSession) (free : w.engine.live = none) :
    Leads (some prepared.session) w none (w.settlePrepared request item (.ok prepared)) := by
  have adopted : Leads (some prepared.session) w none
      ((w.setMode .idle).adopt prepared.session) :=
    (Leads.setMode w (.inl rfl)).trans (adopt_leads _ _ free)
  have live := adopt_engine (w.setMode .idle) prepared.session
  unfold settlePrepared
  dsimp only
  refine adopted.trans ?_
  generalize (w.setMode .idle).adopt prepared.session = w₁ at live
  have known : ∀ w₂ : World σ L, w₂.engine = w₁.engine → Leads none w₂ none
      (if request.autoplay then
        (w₂.seekPrepared prepared.session request.seekTo).begin item prepared.session
      else (w₂.seekPrepared prepared.session request.seekTo).setMode
        (.paused item prepared.session)) := by
    intro w₂ same
    have live : w₂.engine.live = some prepared.session := by rw [same, live]
    refine (w₂.seekPrepared_leads request.seekTo live).trans ?_
    split
    · exact begin_leads _ item (by rw [seekPrepared_engine, live])
    · exact .setMode _ (.inl rfl)
  cases prepared.duration with
  | none => exact known w₁ rfl
  | some duration =>
    refine Leads.trans ?_ (known _ rfl)
    exact .mutters (.of [] rfl rfl rfl) rfl

theorem replay_leads (w : World σ L) {session : SessionId} (live : w.engine.live = some session) :
    Leads hand w hand (w.replay session).2 := by
  have sought : Leads hand w hand _ := w.seekSession_leads .zero live
  have same := w.seekSession_engine session .zero
  unfold replay
  rcases h : w.seekSession session .zero with ⟨_ | _, w'⟩ <;> rw [h] at sought same <;> dsimp only
  · exact sought
  · exact sought.trans (playSession_leads w' (by rw [same]; exact live))

theorem onCompleted_leads (w : World σ L) (item : Item) {session : SessionId}
    (live : w.engine.live = some session) : Leads hand w hand (w.onCompleted item session) := by
  have noted : Leads hand w hand _ :=
    w.log_leads .engine .debug "Playback completed" [("file", item.fileName)]
  have same := w.log_engine .engine .debug "Playback completed" [("file", item.fileName)]
  unfold onCompleted
  dsimp only
  generalize w.log .engine .debug "Playback completed" [("file", item.fileName)] = w'
    at noted same ⊢
  refine noted.trans ?_
  split
  case isTrue =>
    have replayed : Leads hand w' hand _ := replay_leads w' (by rw [same]; exact live)
    rcases h : w'.replay session with ⟨_ | _, w''⟩ <;> rw [h] at replayed <;> dsimp only
    · exact replayed.trans ((log_leads _ ..).trans (start_leads _ item true none))
    · exact replayed.trans (.setMode _ (.inl rfl))
  case isFalse =>
    split
    · exact navigate_leads _ true
    · exact reset_leads _

theorem onLiveOutput_leads (w : World σ L) (item : Item) {session : SessionId} (event : OutputEvent)
    (live : w.engine.live = some session) :
    Leads hand w hand (w.onLiveOutput item session event) := by
  cases event with
  | completed => exact w.onCompleted_leads item live
  | failed => exact (w.log_leads ..).trans (emit_leads _ _)

theorem onOutput_leads (w : World σ L) (event : OutputEvent) (coherent : w.engine.Coherent) :
    Leads hand w hand (w.onOutput event) := by
  unfold onOutput
  split
  case h_1 item session playing =>
    split
    · exact w.onLiveOutput_leads item event (coherent.live.trans (congrArg Mode.session? playing))
    · exact w.log_leads ..
  case h_2 item session paused =>
    split
    · exact w.onLiveOutput_leads item event (coherent.live.trans (congrArg Mode.session? paused))
    · exact w.log_leads ..
  case h_3 => exact w.log_leads ..

theorem onFocus_leads (w : World σ L) (change : FocusChange) (coherent : w.engine.Coherent) :
    Leads hand w hand (w.onFocus change) := by
  have noted : Leads hand w hand _ :=
    w.log_leads .engine .debug "Audio focus changed" [("change", change.name)]
  have same := w.log_engine .engine .debug "Audio focus changed" [("change", change.name)]
  unfold onFocus
  dsimp only
  generalize w.log .engine .debug "Audio focus changed" [("change", change.name)] = w'
    at noted same ⊢
  rw [← same] at coherent
  refine noted.trans ?_
  cases change with
  | lost =>
    dsimp only
    refine (w'.setFocusPaused_leads false).trans ?_
    refine .trans ?_ (releaseFocus_leads _)
    split
    · exact pause_leads _ ⟨coherent.live, coherent.latest⟩
    · exact .refl _
  | lostTransient =>
    dsimp only
    split
    · exact (w'.pause_leads coherent).trans (setFocusPaused_leads _ true)
    · exact .refl w'
  | gained =>
    dsimp only
    split
    case isTrue =>
      refine (w'.setFocusPaused_leads false).trans ?_
      split
      case h_1 item session paused =>
        exact resume_leads _ item (coherent.live.trans (congrArg Mode.session? paused))
      case h_2 => exact .refl _
    case isFalse => exact .refl w'

theorem refreshNotification_leads (w : World σ L) : Leads hand w hand w.refreshNotification := by
  obtain ⟨shown, engine⟩ := w.refreshNotification_engine
  exact .mutters w.refreshNotification_mutters (by rw [engine]; rfl)

theorem onLifecycle_leads (w : World σ L) (event : LifecycleEvent) :
    Leads hand w hand (w.onLifecycle event) := by
  unfold onLifecycle
  cases event with
  | becameBackground =>
    let away := { w with engine := { w.engine with backgrounded := true } }
    have gone : Leads hand w hand away := .mutters (.of [] rfl rfl rfl) rfl
    dsimp only
    split
    case isTrue => exact gone
    case isFalse =>
      refine gone.trans ?_
      refine (Leads.mutters away.screenOn_mutters (by rw [screenOn_engine])).trans ?_
      refine .trans ?_ (refreshNotification_leads _)
      split
      · obtain ⟨lock, locks⟩ := away.screenOn.2.acquireWakeLock_engine
        exact .mutters (acquireWakeLock_mutters _) (by rw [locks]; rfl)
      · exact .refl _
  | becameForeground =>
    refine .trans ?_ ((releaseWakeLock_leads _).trans (hideNotification_leads _))
    exact .mutters (.of [] rfl rfl rfl) rfl

theorem onTick_leads (w : World σ L) (coherent : w.engine.Coherent) :
    Leads hand w hand w.onTick := by
  unfold onTick
  split
  case h_1 item session playing =>
    have live := coherent.live.trans (congrArg Mode.session? playing)
    have asked : Leads hand w hand _ := w.sessionPosition_leads live
    rcases h : w.sessionPosition session with ⟨_ | _, w'⟩ <;> rw [h] at asked <;> dsimp only
    · exact asked
    · exact asked.trans (emit_leads _ _)
  case h_2 => exact .refl w

/-- The answer to a prepare that failed hands nothing over. -/
theorem onPrepared_leads_of_error (w : World σ L) (id : Nat) (item : Item) (failure : HostError) :
    Leads hand w hand (w.onPrepared id item (.error failure)) := by
  unfold onPrepared
  split
  case h_1 active request preparing =>
    split
    case isTrue =>
      have quit : Leads hand w hand (w.setMode .idle) := .setMode w (.inl rfl)
      exact quit.trans ((log_leads _ ..).trans ((emitFailure_leads _ item _).trans (stop_leads _)))
    case isFalse => exact w.log_leads ..
  case h_2 => exact w.log_leads ..

/-- The answer to a prepare that succeeded hands its session over, and it is adopted or unloaded
unless it is the live one already. -/
theorem onPrepared_leads_of_ok (w : World σ L) (id : Nat) (item : Item)
    (prepared : PreparedSession) (coherent : w.engine.Coherent) : ∃ hand',
    (hand' = none ∨ hand' = (w.onPrepared id item (.ok prepared)).engine.live) ∧
    Leads (some prepared.session) w hand' (w.onPrepared id item (.ok prepared)) := by
  have discarded : ∃ hand',
      (hand' = none ∨ hand' = (w.discardPrepared id (.ok prepared)).engine.live) ∧
      Leads (some prepared.session) w hand' (w.discardPrepared id (.ok prepared)) := by
    refine ⟨_, ?_, (w.log_leads ..).trans (discard_leads _ _)⟩
    rw [discardPrepared_engine]
    split
    case isTrue live => exact .inr live.symm
    case isFalse => exact .inl rfl
  unfold onPrepared
  split
  case h_1 active request preparing =>
    have free : w.engine.live = none := coherent.live.trans (congrArg Mode.session? preparing)
    split
    case isTrue => exact ⟨none, .inl rfl, w.settlePrepared_leads request item prepared free⟩
    case isFalse => exact discarded
  case h_2 => exact discarded

theorem handle_leads (w : World σ L) (m : Message) (coherent : w.engine.Coherent) : ∃ hand',
    (hand' = none ∨ hand' = (w.handle m).engine.live) ∧
    Leads m.handed? w hand' (w.handle m) := by
  have nothing : ∀ w' : World σ L, Leads none w none w' → ∃ hand',
      (hand' = none ∨ hand' = w'.engine.live) ∧ Leads none w hand' w' :=
    fun w' leads => ⟨none, .inl rfl, leads⟩
  cases m with
  | play => exact nothing _ (w.play_leads coherent)
  | playItem item => exact nothing _ (w.playItem_leads item)
  | pause => exact nothing _ (w.pauseByUser_leads coherent)
  | toggle => exact nothing _ (w.toggle_leads coherent)
  | forward => exact nothing _ (w.navigate_leads true)
  | backward => exact nothing _ (w.navigate_leads false)
  | reset => exact nothing _ w.reset_leads
  | seek position => exact nothing _ (w.seek_leads position coherent)
  | setRepeatMode mode => exact nothing _ (w.setRepeatMode_leads mode)
  | setShuffle shuffled => exact nothing _ (w.setShuffle_leads shuffled)
  | playInPlaylist item playlist => exact nothing _ (w.playInPlaylist_leads item playlist coherent)
  | setPlaylist playlist => exact nothing _ (w.setPlaylist_leads playlist)
  | setIndex index => exact nothing _ ((w.setIndex_leads index).trans (reply_leads _ _))
  | snapshot => exact nothing _ (w.reply_leads _)
  | progress => exact nothing _ ((w.progress_leads coherent).trans (reply_leads _ _))
  | prepared id item result =>
    cases result with
    | error failure => exact nothing _ (w.onPrepared_leads_of_error id item failure)
    | ok prepared => exact w.onPrepared_leads_of_ok id item prepared coherent
  | output event => exact nothing _ (w.onOutput_leads event coherent)
  | focus change => exact nothing _ (w.onFocus_leads change coherent)
  | lifecycle event => exact nothing _ (w.onLifecycle_leads event)
  | tick => exact nothing _ (w.onTick_leads coherent)
  | shutdown => exact nothing _ (w.reply_leads _)

/-- A turn takes the engine's holding along a lawful course. What it was handed it no longer has,
unless it is the live session. -/
theorem turn_leads (w : World σ L) (m : Message) (coherent : w.engine.Coherent) : ∃ hand',
    (hand' = none ∨ hand' = (w.turn m).engine.live) ∧ Leads m.handed? w hand' (w.turn m) := by
  have noted : Leads m.handed? w m.handed? _ :=
    w.log_leads .engine .trace "Engine command" [("command", m.name)]
  obtain ⟨hand', place, handled⟩ :=
    (w.log .engine .trace "Engine command" [("command", m.name)]).handle_leads m coherent
  obtain ⟨shown, published⟩ :=
    ((w.log .engine .trace "Engine command" [("command", m.name)]).handle m).publish_engine
  refine ⟨hand', ?_, noted.trans (handled.trans (publish_leads _))⟩
  unfold turn
  rw [published]
  exact place

theorem subscribeOutput_mutters (w : World σ L) : w.Mutters w.subscribeOutput := by
  unfold subscribeOutput
  obtain ⟨result, outside, h⟩ := w.exists_call .subscribeOutput
  rw [h]
  cases result with
  | ok => exact .of [_] rfl rfl rfl
  | error => exact .of [_, _] rfl rfl rfl

theorem subscribeFocus_mutters (w : World σ L) : w.Mutters w.subscribeFocus := by
  unfold subscribeFocus
  obtain ⟨result, outside, h⟩ := w.exists_call .subscribeFocus
  rw [h]
  cases result with
  | ok => exact .of [_] rfl rfl rfl
  | error => exact .of [_, _] rfl rfl rfl

theorem startUp_mutters (w : World σ L) : w.Mutters w.startUp :=
  w.subscribeOutput_mutters.trans ((subscribeFocus_mutters _).trans (log_mutters _ ..))

theorem teardown_leads (w : World σ L) : Leads hand w hand w.teardown :=
  w.reset_leads.trans ((publish_leads _).trans (log_leads _ ..))

end World
end MediaPlayback
