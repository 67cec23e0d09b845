import MediaPlayback.Proofs.Intent
import MediaPlayback.Proofs.Stage
import MediaPlayback.Proofs.Stopped
import MediaPlayback.Proofs.Tokens

/-! Failures that end playback: the host cannot prepare an item, or play or pause its session.
Whatever the engine was about, it then announces the failure, gives the session and audio focus back
and stops where it is, so that playback can be started again. -/

namespace MediaPlayback

namespace Effect

variable {L : Type}

/-- Whether an effect is a call to pause a session. -/
def isPause : Effect L → Bool
  | .called (.pause _) _ => true
  | _ => false

/-- Whether an effect is a call to play or pause a session that the host failed at. -/
def isBreakdown : Effect L → Bool
  | .called (.play _) (.error _) | .called (.pause _) (.error _) => true
  | _ => false

/-- A call to pause a session that the host failed at. -/
theorem eq_of_isPause (effect : Effect L) (pauses : effect.isPause) (fails : effect.isBreakdown) :
    ∃ session failure, effect = .called (.pause session) (.error failure) := by
  cases effect with
  | called call result =>
    cases call with
    | pause session =>
      cases result with
      | ok => contradiction
      | error failure => exact ⟨session, failure, rfl⟩
    | _ => contradiction
  | _ => contradiction

theorem pause_loud (effect : Effect L) (quiet : effect.isLoud = false) :
    effect.isPause = false := by
  cases effect with
  | called call result => cases call <;> first | rfl | contradiction
  | _ => rfl

theorem breakdown_loud (effect : Effect L) (quiet : effect.isLoud = false) :
    effect.isBreakdown = false := by
  cases effect with
  | called call result => cases call <;> first | rfl | contradiction
  | _ => rfl

theorem upkeep_quiet (effect : Effect L) (upkeep : effect.isUpkeep) : effect.isLoud = false := by
  cases effect with
  | called call result => cases call <;> first | rfl | contradiction
  | _ => rfl

/-- What is only counted where something is played or paused is not counted anywhere else. -/
theorem countP_append_of_quiet {p : Effect L → Bool}
    (loud : ∀ effect, effect.isLoud = false → p effect = false) {effects : List (Effect L)}
    (quiet : ∀ effect ∈ effects, effect.isLoud = false) (trace : List (Effect L)) :
    (effects ++ trace).countP p = trace.countP p := by
  have none : effects.countP p = 0 :=
    List.countP_eq_zero.mpr fun effect mem => by simp [loud effect (quiet effect mem)]
  rw [List.countP_append, none, Nat.zero_add]

end Effect

namespace World

variable {σ L : Type}

/-- Quiet steps play and pause nothing. -/
theorem Conducts.quiet {w w' : World σ L} (conducts : Conducts false w w') :
    ∃ effects, w'.trace = effects ++ w.trace ∧ ∀ effect ∈ effects, effect.isLoud = false := by
  induction conducts with
  | trans _ _ ih ih' =>
    obtain ⟨early, trace, quiet⟩ := ih
    obtain ⟨late, trace', quiet'⟩ := ih'
    exact ⟨late ++ early, by rw [trace', trace, List.append_assoc],
      List.forall_mem_append.mpr ⟨quiet', quiet⟩⟩
  | deedless effects trace deedless =>
    refine ⟨effects, trace, fun effect mem => ?_⟩
    simpa using (Bool.and_eq_true_iff.mp (List.all_eq_true.mp deedless effect mem)).2
  | @deals _ _ effect token deed about trace =>
    refine ⟨[effect], trace, fun effect' mem => ?_⟩
    rw [List.mem_singleton.mp mem]
    cases effect with
    | called call result => cases call <;> first | rfl | contradiction
    | _ => rfl

theorem Conducts.countP {w w' : World σ L} {p : Effect L → Bool} (conducts : Conducts false w w')
    (loud : ∀ effect, effect.isLoud = false → p effect = false) :
    w'.trace.countP p = w.trace.countP p := by
  obtain ⟨effects, trace, quiet⟩ := conducts.quiet
  rw [trace, Effect.countP_append_of_quiet loud quiet]

/-- How often a session was to be paused. -/
def pauses (w : World σ L) : Nat := w.trace.countP Effect.isPause

theorem Conducts.pauses {w w' : World σ L} (conducts : Conducts false w w') :
    w'.pauses = w.pauses := conducts.countP Effect.pause_loud

/-- How often the host failed to play or pause a session. -/
def breakdowns (w : World σ L) : Nat := w.trace.countP Effect.isBreakdown

theorem Conducts.breakdowns {w w' : World σ L} (conducts : Conducts false w w') :
    w'.breakdowns = w.breakdowns := conducts.countP Effect.breakdown_loud

/-- What was announced, the last of it first. -/
def events (w : World σ L) : List CoreEvent := w.trace.filterMap Effect.event?

theorem Upkeeps.events {w w' : World σ L} (upkeeps : w.Upkeeps w') : w'.events = w.events := by
  refine upkeeps.filterMap fun effect upkeep => ?_
  cases effect with
  | emitted => contradiction
  | _ => rfl

/-- The host did not fail to play or pause anything, nothing was announced, and an engine that stops
then is as if it had stopped before. -/
structure Bides (w w' : World σ L) : Prop where
  breakdowns : w'.breakdowns = w.breakdowns
  events : w'.events = w.events
  kept : w'.engine.stopped = w.engine.stopped

theorem Bides.trans {w w' w'' : World σ L} (first : w.Bides w') (second : w'.Bides w'') :
    w.Bides w'' :=
  ⟨second.breakdowns.trans first.breakdowns, second.events.trans first.events,
    second.kept.trans first.kept⟩

theorem Upkeeps.bides {w w' : World σ L} (upkeeps : w.Upkeeps w')
    (kept : w'.engine.stopped = w.engine.stopped) : w.Bides w' := by
  obtain ⟨effects, trace, upkeep⟩ := upkeeps
  refine ⟨?_, Upkeeps.events ⟨effects, trace, upkeep⟩, kept⟩
  rw [World.breakdowns, trace]
  exact Effect.countP_append_of_quiet Effect.breakdown_loud
    (fun effect mem => effect.upkeep_quiet (upkeep effect mem)) w.trace

/-- A failure ended what was being done for an item: the engine stopped, with all else as it was, and
the failure was announced. -/
structure Collapses (w : World σ L) (item : Item) (w' : World σ L) : Prop where
  idle : w'.engine.mode = .idle
  free : w'.engine.live = none
  unfocused : w'.engine.hasFocus = false
  kept : w'.engine.stopped = w.engine.stopped
  announced : ∃ message,
    w'.events = .playback (.error (some item.path.text) message false) :: w.events

theorem Collapses.since {w before w' : World σ L} {item : Item}
    (collapses : before.Collapses item w') (bides : w.Bides before) : w.Collapses item w' :=
  { collapses with
    kept := collapses.kept.trans bides.kept
    announced := bides.events ▸ collapses.announced }

/-- The host did not fail to play or pause anything, or that ended what was being done for the
active item. -/
def Withstands (w : World σ L) (active : Option Item) (w' : World σ L) : Prop :=
  w'.breakdowns = w.breakdowns ∨ ∃ item, active = some item ∧ w.Collapses item w'

theorem Conducts.withstands {w w' : World σ L} (conducts : Conducts false w w')
    {active : Option Item} : w.Withstands active w' :=
  .inl conducts.breakdowns

theorem Withstands.since {w before w' : World σ L} {active : Option Item}
    (withstands : before.Withstands active w') (bides : w.Bides before) :
    w.Withstands active w' := by
  rcases withstands with unbroken | ⟨item, same, collapses⟩
  · exact .inl (unbroken.trans bides.breakdowns)
  · exact .inr ⟨item, same, collapses.since bides⟩

variable [Surroundings σ L]

/-! ### What is announced -/

theorem acquireFocus_events (w : World σ L) : w.acquireFocus.2.events = w.events := by
  unfold acquireFocus
  split
  · rfl
  · obtain ⟨result, outside, h⟩ := w.exists_call .requestFocus
    rw [h]
    rcases result with e | (_ | _) <;> rfl

theorem seekPrepared_events (w : World σ L) (session : SessionId) (seekTo : Option Duration) :
    (w.seekPrepared session seekTo).events = w.events := by
  unfold seekPrepared
  split
  case h_1 => rfl
  case h_2 position =>
    obtain ⟨result, outside, h⟩ := w.exists_call (.seek session position)
    rw [seekSession, h]
    cases result <;> rfl

theorem releaseWakeLock_events (w : World σ L) : w.releaseWakeLock.events = w.events := by
  unfold releaseWakeLock
  split
  · obtain ⟨result, outside, h⟩ :=
      exists_call { w with engine := { w.engine with holdsWakeLock := false } }
        (.releaseWakeLock wakeLockTag)
    rw [h]
    cases result <;> rfl
  · rfl

theorem refreshNotification_events (w : World σ L) : w.refreshNotification.events = w.events := by
  rw [refreshNotification_eq]
  split
  case h_1 content _ =>
    obtain ⟨result, outside, h⟩ := w.exists_call (.showNotification w.notificationId content)
    rw [showNotification, h]
    cases result <;> rfl
  case h_2 =>
    unfold hideNotification
    split
    · obtain ⟨result, outside, h⟩ := w.exists_call (.cancelNotification w.notificationId)
      rw [h]
      cases result <;> rfl
    · rfl

/-- Whoever is told something leaves that in the trace, and at most an entry in the log. -/
theorem tell_filterMap {α : Type} (w : World σ L) (notice : Notice) {f : Effect L → Option α}
    (notified : ∀ id listener, f (.notified id listener notice) = none)
    (logged : ∀ entry, f (.logged entry) = none) :
    (w.tell notice).trace.filterMap f = w.trace.filterMap f := by
  have fold : ∀ (told : List (Told L Command)) (w : World σ L),
      (told.foldl (recordTold notice) w).trace.filterMap f = w.trace.filterMap f := by
    intro told
    induction told with
    | nil => exact fun _ => rfl
    | cons first rest ih =>
      intro w
      have one : (recordTold notice w first).trace.filterMap f = w.trace.filterMap f := by
        unfold recordTold
        cases first.breakdown with
        | none => exact List.filterMap_cons_none (notified ..)
        | some =>
          exact (List.filterMap_cons_none (logged _)).trans (List.filterMap_cons_none (notified ..))
      exact (ih _).trans one
  exact fold _ _

/-- Listeners are no subscribers. -/
theorem tell_events (w : World σ L) (notice : Notice) : (w.tell notice).events = w.events :=
  w.tell_filterMap notice (fun _ _ => rfl) fun _ => rfl

theorem publishState_events (w : World σ L) (state : PlaybackState) :
    (w.publishState state).events =
      .playback (.stateChanged state (w.engine.mode.item?.map (·.path.text))) :: w.events := by
  let logged := w.log .engine .info "Playback state changed" [("state", state.text)]
  have told : (logged.tell (.stateChanged state)).events = w.events := logged.tell_events _
  rw [← told]
  rfl

/-- An engine that stopped announces that, unless it was stopped before. -/
theorem publish_events_of_idle (w : World σ L) (idle : w.engine.mode = .idle)
    (known : Item.SameOption w.engine.cursor.currentItem? w.engine.lastItem) :
    w.publish.events = (if w.engine.lastState = .stopped then []
      else [.playback (.stateChanged .stopped none)]) ++ w.events := by
  have untold : w.publishItem = w := if_pos known
  have stopped : w.engine.mode.reported = .stopped := congrArg Mode.reported idle
  unfold publish
  dsimp only
  rw [untold, stopped, if_neg (not_not_intro known)]
  split
  case isTrue before => rw [if_pos before.symm]; rfl
  case isFalse before =>
    let awake := { w with engine := { w.engine with lastState := .stopped } }
    obtain ⟨shown, engine⟩ := awake.releaseWakeLock.refreshNotification_engine
    have quiet : awake.releaseWakeLock.refreshNotification.events = w.events :=
      (refreshNotification_events _).trans awake.releaseWakeLock_events
    have still : awake.releaseWakeLock.refreshNotification.engine.mode = .idle := by
      rw [engine, releaseWakeLock_engine]
      exact idle
    rw [if_pos rfl, if_neg (Ne.symm before), publishState_events, quiet, still]
    rfl

/-! ### What fails -/

/-- Whoever announced a failure gives everything up by stopping. -/
theorem collapses_of_stop {w failed : World σ L} {item : Item} {message : String}
    (kept : failed.engine.stopped = w.engine.stopped)
    (announced : failed.events =
      .playback (.error (some item.path.text) message false) :: w.events) :
    w.Collapses item failed.stop where
  idle := by rw [stop_engine]; rfl
  free := by rw [stop_engine]; rfl
  unfocused := by rw [stop_engine]; rfl
  kept := by rw [stop_engine]; exact kept
  announced := ⟨message, failed.stop_upkeeps.events.trans announced⟩

/-- What is published after a failure is that playback stopped, unless it was stopped before. -/
theorem Collapses.publish_events {w w' : World σ L} {item : Item}
    (collapses : w.Collapses item w') (before : w.engine.Announced) : ∃ message,
    w'.publish.events = ((if w.engine.mode.reported = .stopped then []
      else [.playback (.stateChanged .stopped none)]) ++
        [.playback (.error (some item.path.text) message false)]) ++ w.events := by
  have cursor : w'.engine.cursor = w.engine.cursor := (congrArg Engine.cursor collapses.kept :)
  have lastItem : w'.engine.lastItem = w.engine.lastItem :=
    (congrArg Engine.lastItem collapses.kept :)
  have lastState : w'.engine.lastState = w.engine.mode.reported :=
    (congrArg Engine.lastState collapses.kept :).trans before.state
  have known : Item.SameOption w'.engine.cursor.currentItem? w'.engine.lastItem := by
    rw [cursor, lastItem]
    exact before.item
  obtain ⟨message, announced⟩ := collapses.announced
  refine ⟨message, ?_⟩
  rw [w'.publish_events_of_idle collapses.idle known, lastState, announced, List.append_assoc]
  rfl

theorem fail_collapses (w : World σ L) (item : Item) (failure : PlaybackError) :
    w.Collapses item (w.fail item failure) :=
  collapses_of_stop rfl rfl

theorem settlePrepared_collapses (w : World σ L) (request : PrepareRequest) (item : Item)
    (failure : HostError) : w.Collapses item (w.settlePrepared request item (.error failure)) :=
  collapses_of_stop rfl rfl

theorem acquireFocus_bides (w : World σ L) : w.Bides w.acquireFocus.2 :=
  ⟨w.acquireFocus_conducts.breakdowns, w.acquireFocus_events, by rw [acquireFocus_engine]; rfl⟩

theorem seekPrepared_bides (w : World σ L) (session : SessionId) (seekTo : Option Duration) :
    w.Bides (w.seekPrepared session seekTo) :=
  ⟨(w.seekPrepared_conducts session seekTo).breakdowns, w.seekPrepared_events session seekTo, by
    rw [seekPrepared_engine]⟩

theorem playOn_withstands (w : World σ L) (item : Item) (session : SessionId) :
    w.Withstands (some item) (w.playOn item session) := by
  obtain ⟨answer, outside, called⟩ := w.exists_call (.play session)
  unfold playOn playSession
  rw [called]
  cases answer with
  | ok => exact .inl rfl
  | error failure =>
    have collapses := fail_collapses
      { w with outside, trace := .called (.play session) (.error failure) :: w.trace } item
      (outputFailure "play" failure)
    exact .inr ⟨item, rfl, { collapses with }⟩

theorem playOn_withstands_of_acquired {w w' : World σ L} (acquired : w.acquireFocus = (true, w'))
    (item : Item) (session : SessionId) :
    w.Withstands (some item) (w'.playOn item session) := by
  have bides := w.acquireFocus_bides
  rw [acquired] at bides
  exact (w'.playOn_withstands item session).since bides

theorem begin_withstands (w : World σ L) (item : Item) (session : SessionId) :
    w.Withstands (some item) (w.begin item session) := by
  have asked : Conducts false w _ := w.acquireFocus_conducts
  rcases acquired : w.acquireFocus with ⟨_ | _, w'⟩ <;> rw [acquired] at asked
  · rw [begin, acquired]
    refine Conducts.withstands (asked.trans ((denyFocus_conducts _ item).trans ?_))
    exact (destroyOutput_conducts _ none).trans (setMode_conducts _ .idle)
  · rw [begin_of_acquired acquired]
    exact playOn_withstands_of_acquired acquired item session

theorem resume_withstands (w : World σ L) (item : Item) (session : SessionId) :
    w.Withstands (some item) (w.resume item session) := by
  have asked : Conducts false w _ := w.acquireFocus_conducts
  unfold resume
  rcases acquired : w.acquireFocus with ⟨_ | _, w'⟩ <;> rw [acquired] at asked
  · refine Conducts.withstands (asked.trans ?_)
    exact (denyFocus_conducts _ item).trans (setMode_conducts _ _)
  · exact playOn_withstands_of_acquired acquired item session

theorem pause_withstands (w : World σ L) : w.Withstands w.engine.mode.item? w.pause := by
  unfold pause
  split
  case h_1 item session playing =>
    obtain ⟨answer, outside, called⟩ := w.exists_call (.pause session)
    rw [pauseSession, called]
    cases answer with
    | ok => exact .inl rfl
    | error failure =>
      have collapses := fail_collapses
        { w with outside, trace := .called (.pause session) (.error failure) :: w.trace } item
        (outputFailure "pause" failure)
      exact .inr ⟨item, congrArg Mode.item? playing, { collapses with }⟩
  case h_2 => exact .inl rfl
  case h_3 => exact .inl rfl

/-! ### The messages -/

omit [Surroundings σ L] in
theorem setFocusPaused_bides (w : World σ L) (focusPaused : Bool) :
    w.Bides (w.setFocusPaused focusPaused) :=
  ⟨rfl, rfl, rfl⟩

theorem play_withstands (w : World σ L) : w.Withstands w.engine.mode.item? w.play := by
  unfold play
  dsimp only
  refine Withstands.since ?_ (w.setFocusPaused_bides false)
  split
  case h_1 item session paused =>
    have paused : w.engine.mode = .paused item session := paused
    rw [paused]
    exact resume_withstands _ item session
  case h_2 => exact (setMode_conducts _ _).withstands
  case h_3 =>
    split
    · exact (start_conducts _ _ true none).withstands
    · exact (log_conducts _ ..).withstands
  case h_4 => exact .inl rfl

theorem pauseByUser_withstands (w : World σ L) :
    w.Withstands w.engine.mode.item? w.pauseByUser :=
  (pause_withstands _).since (w.setFocusPaused_bides false)

theorem toggle_withstands (w : World σ L) : w.Withstands w.engine.mode.item? w.toggle := by
  unfold toggle
  split
  · exact w.pauseByUser_withstands
  · exact w.play_withstands

theorem playInPlaylist_withstands (w : World σ L) (item : Item) (playlist : Playlist) :
    w.Withstands w.engine.mode.item? (w.playInPlaylist item playlist) := by
  by_cases same : w.engine.mode.item?.any (·.Same item)
  · unfold playInPlaylist
    rw [if_pos same]
    split
    case h_1 active session paused =>
      rw [paused]
      exact w.resume_withstands active session
    case h_2 => exact (w.setMode_conducts _).withstands
    case h_3 => exact .inl rfl
  · exact (w.playInPlaylist_conducts_of_other playlist same).withstands

theorem settlePrepared_withstands (w : World σ L) (request : PrepareRequest) (item : Item)
    (result : Except HostError PreparedSession) :
    w.Withstands (some item) (w.settlePrepared request item result) := by
  cases result with
  | error failure => exact .inr ⟨item, rfl, w.settlePrepared_collapses request item failure⟩
  | ok prepared =>
    obtain ⟨adopted, upkeeps, engine, settles⟩ := w.settlePrepared_adopted request item prepared
    have ready := (upkeeps.bides (by rw [engine]; rfl)).trans
      (adopted.seekPrepared_bides prepared.session request.seekTo)
    rw [settles]
    dsimp only
    split
    · exact (begin_withstands _ item _).since ready
    · exact .inl ready.breakdowns

/-- The answer that the engine awaits is about the active item. -/
theorem onPrepared_withstands (w : World σ L) (id : Nat) (item : Item)
    (result : Except HostError PreparedSession)
    (about : ∀ {active request}, w.engine.mode = .preparing active request → request.id = id →
      item = active) : w.Withstands w.engine.mode.item? (w.onPrepared id item result) := by
  unfold onPrepared
  split
  case h_1 active request preparing =>
    split
    case isTrue current =>
      rw [preparing, ← about preparing current]
      exact w.settlePrepared_withstands request item result
    case isFalse => exact (w.discardPrepared_conducts id result).withstands
  case h_2 => exact (w.discardPrepared_conducts id result).withstands

/-- An engine that stopped has no focus to give back. -/
theorem Withstands.releaseFocus {w w' : World σ L} {active : Option Item}
    (withstands : w.Withstands active w') : w.Withstands active w'.releaseFocus := by
  rcases withstands with unbroken | ⟨item, same, collapses⟩
  · exact .inl (w'.releaseFocus_conducts.breakdowns.trans unbroken)
  · have free : w'.releaseFocus = w' := if_neg (by simp [collapses.unfocused])
    rw [free]
    exact .inr ⟨item, same, collapses⟩

omit [Surroundings σ L] in
theorem Withstands.setFocusPaused {w w' : World σ L} {active : Option Item}
    (withstands : w.Withstands active w') (focusPaused : Bool) :
    w.Withstands active (w'.setFocusPaused focusPaused) := by
  rcases withstands with unbroken | ⟨item, same, collapses⟩
  · exact .inl unbroken
  · exact .inr ⟨item, same, { collapses with kept := collapses.kept }⟩

theorem onFocus_withstands (w : World σ L) (change : FocusChange) :
    w.Withstands w.engine.mode.item? (w.onFocus change) := by
  let noted := w.log .engine .debug "Audio focus changed" [("change", change.name)]
  have bides : w.Bides noted := ⟨rfl, rfl, rfl⟩
  have unwaiting := noted.setFocusPaused_bides false
  suffices noted.Withstands noted.engine.mode.item? (w.onFocus change) from this.since bides
  cases change with
  | lost =>
    show noted.Withstands _ (if (noted.setFocusPaused false).isPlaying then
      (noted.setFocusPaused false).pause else noted.setFocusPaused false).releaseFocus
    split
    case isTrue => exact ((pause_withstands _).since unwaiting).releaseFocus
    case isFalse => exact Withstands.releaseFocus (.inl rfl)
  | lostTransient =>
    show noted.Withstands _ (if noted.isPlaying then noted.pause.setFocusPaused true else noted)
    split
    case isTrue => exact noted.pause_withstands.setFocusPaused true
    case isFalse => exact .inl rfl
  | gained =>
    unfold onFocus
    dsimp only
    split
    case isTrue =>
      refine Withstands.since ?_ unwaiting
      split
      case h_1 item session paused =>
        have paused : noted.engine.mode = .paused item session := paused
        rw [paused]
        exact resume_withstands _ item session
      case h_2 => exact .inl rfl
    case isFalse => exact .inl rfl

theorem replay_pauses (w : World σ L) (session : SessionId) :
    (w.replay session).2.pauses = w.pauses := by
  unfold replay
  obtain ⟨result, outside, h⟩ := w.exists_call (.seek session .zero)
  rw [seekSession, h]
  cases result <;> rfl

theorem onCompleted_pauses (w : World σ L) (item : Item) (session : SessionId) :
    (w.onCompleted item session).pauses = w.pauses := by
  let noted := w.log .engine .debug "Playback completed" [("file", item.fileName)]
  have replayed := noted.replay_pauses session
  unfold onCompleted
  dsimp only
  split
  case isTrue =>
    rcases h : noted.replay session with ⟨failure | _, w'⟩ <;> rw [h] at replayed
    · have started : w'.Conducts false _ := (w'.log_conducts .engine .debug
        "Replay on the same primitive failed; recreating" [("error", failure.message)]).trans
          (start_conducts _ item true none)
      exact started.pauses.trans replayed
    · exact replayed
  case isFalse =>
    split
    · exact (noted.navigate_conducts true).pauses
    · exact noted.reset_conducts.pauses

/-- What was completed is not paused. -/
theorem onOutput_pauses (w : World σ L) (session : SessionId) :
    (w.onOutput (.completed session)).pauses = w.pauses := by
  unfold onOutput
  split
  · split
    · exact w.onCompleted_pauses _ _
    · rfl
  · split
    · exact w.onCompleted_pauses _ _
    · rfl
  · rfl

/-- If the host fails to play or pause something while a message is handled, that ends what is being
done for the active item. Only what was completed and cannot be played again is prepared anew. -/
theorem handle_withstands (w : World σ L) {m : Message}
    (other : ∀ session, m ≠ .output (.completed session))
    (about : ∀ {id item result active request}, m = .prepared id item result →
      w.engine.mode = .preparing active request → request.id = id → item = active) :
    w.Withstands w.engine.mode.item? (w.handle m) := by
  cases m with
  | play => exact w.play_withstands
  | pause => exact w.pauseByUser_withstands
  | toggle => exact w.toggle_withstands
  | playInPlaylist item playlist => exact w.playInPlaylist_withstands item playlist
  | prepared id item result => exact w.onPrepared_withstands id item result (about rfl)
  | focus change => exact w.onFocus_withstands change
  | output event =>
    cases event with
    | completed session => exact absurd rfl (other session)
    | failed session message =>
      exact (w.onOutput_conducts_of_failed session message).withstands
  | playItem item => exact (w.playItem_conducts item).withstands
  | forward => exact (w.navigate_conducts true).withstands
  | backward => exact (w.navigate_conducts false).withstands
  | reset => exact w.reset_conducts.withstands
  | seek position => exact (w.seek_conducts position).withstands
  | setRepeatMode | setShuffle | snapshot | shutdown => exact .inl rfl
  | setPlaylist playlist => exact (w.setPlaylist_conducts playlist).withstands
  | setIndex index => exact ((w.setIndex_conducts index).trans (reply_conducts _ _)).withstands
  | progress => exact (w.progress_conducts.trans (reply_conducts _ _)).withstands
  | lifecycle event => exact (w.onLifecycle_conducts event).withstands
  | tick => exact w.onTick_conducts.withstands

end World

namespace Core

variable {σ L : Type} [Surroundings σ L] {c : Core σ L}

/-- The engine takes a message that ends it, and plays and pauses nothing. -/
theorem act_take_conducts_of_shutdown (next : c.next? = some .shutdown) :
    c.Conducts false (c.act .take) := by
  obtain ⟨running, rest, mailbox⟩ := mailbox_of_next next
  rw [act, if_pos running, takeMessage]
  split
  case h_1 => exact .refl c
  case h_2 =>
    have noted : c.Conducts false { c with
        world := c.world.log .engine .trace "Engine command"
          [("command", Message.shutdown.name)] } :=
      c.world.log_conducts ..
    exact (noted.trans (finish_conducts _)).trans (World.reply_conducts _ _)
  case h_3 other continues =>
    rw [continues] at mailbox
    exact absurd (List.cons.inj mailbox).1 other

/-- The world in which the next message is handled. -/
def noting (c : Core σ L) (m : Message) : World σ L :=
  c.world.log .engine .trace "Engine command" [("command", m.name)]

/-- If something is played or paused when the engine takes the next message, it is done by handling
that message. -/
theorem Sound.handles_loud (sound : c.Sound) {p : Effect L → Bool}
    (loud : ∀ effect, effect.isLoud = false → p effect = false) {effect : Effect L}
    (mem : effect ∈ c.story [.take]) (holds : p effect = true) : ∃ m, c.next? = some m ∧
      m ≠ .shutdown ∧
      ((c.noting m).handle m).trace.countP p ≠ (c.noting m).trace.countP p := by
  have more : (c.act .take).world.trace.countP p ≠ c.world.trace.countP p := by
    have whole : (c.act .take).world.trace = _ := sound.trace_after [.take]
    have counted : 0 < (c.story [.take]).reverse.countP p :=
      List.countP_pos_iff.mpr ⟨effect, List.mem_reverse.mpr mem, holds⟩
    rw [whole, List.countP_append]
    omega
  cases next : c.next? with
  | none => exact absurd (by rw [act_take_nothing next]) more
  | some m =>
    have other : m ≠ .shutdown := by
      rintro rfl
      have quiet : c.world.Conducts false (c.act .take).world := act_take_conducts_of_shutdown next
      exact more (quiet.countP loud)
    obtain ⟨_, _, turned⟩ := act_take next other
    refine ⟨m, rfl, other, fun same => more ?_⟩
    have published : World.Conducts false ((c.noting m).handle m) (c.world.turn m) :=
      World.publish_conducts _
    have noted : World.Conducts false c.world (c.noting m) := c.world.log_conducts ..
    rw [turned]
    exact (published.countP loud).trans (same.trans (noted.countP loud))

/-- When the engine takes the next message, the host turns out not to have prepared what is awaited,
or it fails to play or pause a session. It is no such failure if what was completed cannot be played
again: the item is then prepared anew. -/
inductive Breaks (c : Core σ L) : Prop where
  | prepare {active item : Item} {request : PrepareRequest} {failure : HostError}
    (preparing : c.world.engine.mode = .preparing active request)
    (next : c.next? = some (.prepared request.id item (.error failure)))
  | play {m : Message} {session : SessionId} {failure : HostError} (next : c.next? = some m)
    (other : ∀ session, m ≠ .output (.completed session))
    (failed : .called (.play session) (.error failure) ∈ c.story [.take])
  | pause {session : SessionId} {failure : HostError}
    (failed : .called (.pause session) (.error failure) ∈ c.story [.take])

/-- If the host failed to play or pause something while a message was handled, that ended what was
being done for the active item. -/
theorem Sound.collapses_of_broken (sound : c.Sound) {m : Message} (next : c.next? = some m)
    (other : ∀ session, m ≠ .output (.completed session))
    (broken : ((c.noting m).handle m).breakdowns ≠ (c.noting m).breakdowns) :
    ∃ item, c.world.engine.mode.item? = some item ∧
      (c.noting m).Collapses item ((c.noting m).handle m) := by
  have withstands := (c.noting m).handle_withstands other fun answer preparing current =>
    sound.answers_active (due_of_next (answer ▸ next)) preparing current
  exact withstands.resolve_left broken

/-- Whatever breaks, it ends what is being done for the active item. -/
theorem Sound.collapses (sound : c.Sound) (breaks : c.Breaks) : ∃ m item, c.next? = some m ∧
    m ≠ .shutdown ∧ c.world.engine.mode.item? = some item ∧
    (c.noting m).Collapses item ((c.noting m).handle m) := by
  cases breaks with
  | @prepare active item request failure preparing next =>
    obtain rfl := sound.answers_active (due_of_next next) preparing rfl
    refine ⟨_, item, next, nofun, congrArg Mode.item? preparing, ?_⟩
    let w := c.noting (.prepared request.id item (.error failure))
    rw [World.handle, w.onPrepared_of_awaited preparing]
    exact w.settlePrepared_collapses request item failure
  | @play m _ _ next other failed =>
    obtain ⟨_, next', lasting, broken⟩ := sound.handles_loud Effect.breakdown_loud failed rfl
    cases next.symm.trans next'
    obtain ⟨item, active, collapses⟩ := sound.collapses_of_broken next other broken
    exact ⟨m, item, next, lasting, active, collapses⟩
  | pause failed =>
    obtain ⟨m, next, lasting, broken⟩ := sound.handles_loud Effect.breakdown_loud failed rfl
    obtain ⟨m', next', _, paused⟩ := sound.handles_loud Effect.pause_loud failed rfl
    cases next.symm.trans next'
    have other : ∀ session, m ≠ .output (.completed session) := by
      rintro session rfl
      exact paused ((c.noting _).onOutput_pauses session)
    obtain ⟨item, active, collapses⟩ := sound.collapses_of_broken next other broken
    exact ⟨m, item, next, lasting, active, collapses⟩

/-- When the engine takes the next message, it announces a failure of an item and stops where it is. -/
structure GivesUp (c : Core σ L) (item : Item) : Prop where
  idle : (c.act .take).world.engine.mode = .idle
  free : (c.act .take).world.engine.live = none
  unfocused : (c.act .take).world.engine.hasFocus = false
  cursor : (c.act .take).world.engine.cursor = c.world.engine.cursor
  events : ∃ message, (c.story [.take]).filterMap Effect.event? =
    .playback (.error (some item.path.text) message false) ::
      if c.world.engine.mode.reported = .stopped then []
      else [.playback (.stateChanged .stopped none)]

theorem Sound.givesUp (sound : c.Sound) (breaks : c.Breaks) :
    ∃ item, c.world.engine.mode.item? = some item ∧ c.GivesUp item := by
  obtain ⟨m, item, next, lasting, active, collapses⟩ := sound.collapses breaks
  obtain ⟨_, _, turned⟩ := act_take next lasting
  obtain ⟨shown, published⟩ := ((c.noting m).handle m).publish_engine
  obtain ⟨message, events⟩ := collapses.publish_events sound.announced
  rw [show (c.noting m).engine = c.world.engine from rfl] at events
  have engine : (c.act .take).world.engine = ((c.noting m).handle m).engine.published shown := by
    rw [turned]
    exact published
  have told : (c.act .take).world.events = ((c.noting m).handle m).publish.events := by
    rw [turned]
    rfl
  refine ⟨item, active, ?_, ?_, ?_, ?_, message, ?_⟩
  · rw [engine]; exact collapses.idle
  · rw [engine]; exact collapses.free
  · rw [engine]; exact collapses.unfocused
  · rw [engine]; exact (congrArg Engine.cursor collapses.kept :)
  · rw [sound.filterMap_story .take _ (told.trans events), List.reverse_append]
    split <;> rfl

/-- As long as the engine takes no message and does not end, it stays as it is. -/
theorem Sound.engine_of_untaken (sound : c.Sound) (actions : List (Action σ L))
    (untaken : c.taken actions = []) (running : (c.after actions).phase = .running) :
    (c.after actions).world.engine = c.world.engine := by
  induction actions using List.reverseRecOn with
  | nil => rfl
  | append_singleton actions action ih =>
    have settled := (sound.after actions).settled
    rw [Core.taken, along_append, List.append_eq_nil_iff] at untaken
    rw [after_append] at running ⊢
    have same := ih untaken.1 (running_of_act settled running)
    have untaken : (c.after actions).takes action = [] := (List.append_eq_nil_iff.mp untaken.2).1
    have moves := act_moves settled action
    rw [after_cons, after_nil] at running ⊢
    generalize (c.after actions).act action = c' at moves running ⊢
    cases moves with
    | stays _ _ stays => exact stays.engine.trans same
    | turns before next => simp [takes, next?, before, next] at untaken
    | ends _ _ ended => cases ended.symm.trans running
    | delivers | lapses => exact same
    | refuses => exact same

/-- When the engine takes the next message, it starts to prepare an item that is to be played from
its start. -/
def SetsOut (c : Core σ L) (item : Item) : Prop :=
  ∃ request output, (c.act .take).world.engine.mode = .preparing item request ∧
    request.autoplay = true ∧ request.seekTo = none ∧ output.path = item.path ∧
    (c.act .take).flights = c.flights ++ [{ task := ⟨request.id, item, output⟩ }]

theorem Sound.setsOut (sound : c.Sound) {item : Item} (next : c.next? = some .play)
    (idle : c.world.engine.mode = .idle)
    (current : c.world.engine.cursor.currentItem? = some item) : c.SetsOut item := by
  have free : c.world.engine.live = none :=
    sound.coherent.live.trans (congrArg Mode.session? idle)
  obtain ⟨_, ⟨request, output, mode, auto, still, path, tasks⟩, _⟩ :=
    c.world.turn_of_told (.inl rfl) idle free current
  obtain ⟨mailbox, turned⟩ := act_take_turned next nofun
  rw [SetsOut, turned]
  exact ⟨request, output, mode, auto, still, path, sound.turned_flights .play mailbox tasks⟩

/-- A failure to prepare what is awaited, or to play or pause, stops the engine cleanly, even if the
host fails to take back what it gave: the engine is idle, it has no session and no focus and has left
none with the host, and its cursor stays. The failure of the active item is announced once, then that
playback is stopped unless it was before, and nothing else. If playback is asked for next, the current
item is prepared, and that is the same track. -/
theorem failure_stops_cleanly (blank : c.Blank) (interval : Duration) (actions : List (Action σ L))
    (breaks : ((c.launch interval).after actions).Breaks) :
    let s := (c.launch interval).after actions
    let s' := s.act .take
    ∃ failed current, s.world.engine.mode.item? = some failed ∧
      s.GivesUp failed ∧ Effect.liveIn s'.world.trace = none ∧
      Effect.focusIn s'.world.trace = false ∧
      s'.world.engine.cursor.currentItem? = some current ∧ current.Same failed ∧
      ∀ later, s'.taken later = [] → (s'.after later).next? = some .play →
        (s'.after later).SetsOut current := by
  intro s s'
  have launched := Sound.launch blank interval
  have sound : s.Sound := launched.after actions
  have sound' : s'.Sound := sound.act .take
  obtain ⟨failed, active, gaveUp⟩ := sound.givesUp breaks
  obtain ⟨current, there, same⟩ :=
    (launched.onTrack_after (launch_onTrack blank interval) actions).current failed active
  have only : Effect.LiveOnly s'.world.engine.live s'.world.trace :=
    sound.act_liveOnly .take (launched.after_liveOnly actions (launch_liveOnly blank interval))
  have current_item : s'.world.engine.cursor.currentItem? = some current := by
    rw [gaveUp.cursor]
    exact there
  refine ⟨failed, current, active, gaveUp, ?_, sound'.accounts.focused.trans gaveUp.unfocused,
    current_item, same, fun later untaken next => ?_⟩
  · rw [gaveUp.free] at only
    exact Option.eq_none_iff_forall_ne_some.mpr fun session lives => nomatch only session lives
  · have engine := sound'.engine_of_untaken later untaken (mailbox_of_next next).1
    exact (sound'.after later).setsOut next (by rw [engine]; exact gaveUp.idle)
      (by rw [engine]; exact current_item)

end Core

/-- A host that does not pause, and takes nothing back. -/
inductive Stubborn where
  | host

instance : Surroundings Stubborn Empty where
  answer _ call := (match call with
    | .pause _ | .unload _ | .abandonFocus => .error (.operationFailed "stubborn")
    | call => (Surroundings.answer Empty Obliging.host call).1, .host)
  react _ _ _ listener := listener.elim
  keepsRunning _ listener := listener.elim

namespace Core

/-- A core before its engine starts, with a stubborn host. -/
def resisted : Core Stubborn Empty where
  world := { outside := .host }
  signal := { debounce := .zero }

/-- A song plays and is to be paused. -/
def unpausable : List (Action Stubborn Empty) :=
  [.command (.choose .song), .take, .ask, .answer 1 (.ok ⟨⟨1⟩, none⟩), .take, .command .pause]

/-- The song cannot be paused and is given up; then it is prepared again. -/
theorem failure_stops_cleanly_unpausable :
    let s := (resisted.launch .zero).after unpausable
    s.Breaks ∧ s.world.engine.mode = .playing .song ⟨1⟩ ∧
    s.GivesUp .song ∧ ((s.act .take).after [.command .play]).SetsOut .song := by
  intro s
  have breaks : s.Breaks := by
    obtain ⟨effect, mem, pauses, fails⟩ :
        ∃ effect ∈ s.story [.take], effect.isPause ∧ effect.isBreakdown := by decide +kernel
    obtain ⟨session, failure, rfl⟩ := effect.eq_of_isPause pauses fails
    exact .pause mem
  have blank : resisted.Blank :=
    ⟨rfl, rfl, rfl, ⟨rfl, rfl⟩, fun _ mem => absurd mem List.not_mem_nil⟩
  have playing : s.world.engine.mode = .playing .song ⟨1⟩ := by decide +kernel
  have there : (((resisted.launch .zero).after unpausable).act
      .take).world.engine.cursor.currentItem? = some .song := by decide +kernel
  obtain ⟨failed, current, active, gaveUp, _, _, known, _, setsOut⟩ :=
    failure_stops_cleanly blank .zero unpausable breaks
  obtain rfl : failed = .song := Option.some.inj (active.symm.trans (congrArg Mode.item? playing))
  obtain rfl : current = .song := Option.some.inj (known.symm.trans there)
  exact ⟨breaks, playing, gaveUp, setsOut _ (by decide +kernel) (by rfl)⟩

end Core
end MediaPlayback
