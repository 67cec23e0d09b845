import MediaPlayback.Proofs.Engine.Course

/-! What is played. Only the start of a prepared session, the resumption of a paused one and the
replay of a completed one make the host play, and of these three only the second one needs a message
that asks for it. -/

namespace MediaPlayback

/-- The session that a call plays. -/
def HostCall.plays? : HostCall → Option SessionId
  | .play session => some session
  | _ => none

namespace Effect

variable {L : Type}

def plays? : Effect L → Option SessionId
  | .called call _ => call.plays?
  | _ => none

/-- The sessions that the host was asked to play, the last one first. -/
def playedIn (trace : List (Effect L)) : List SessionId := trace.filterMap plays?

theorem plays?_aside {effect : Effect L} (aside : effect.isAside) : effect.plays? = none := by
  cases effect with
  | called call result => cases call <;> first | rfl | contradiction
  | _ => rfl

end Effect

/-- Whether a message asks for playback. -/
def Message.asksToPlay : Message → Bool
  | .play | .playItem _ | .playInPlaylist .. | .toggle | .forward | .backward | .focus .gained => true
  | _ => false

namespace World

variable {σ L : Type}

/-- The sessions that the host was asked to play, the last one first. -/
def played (w : World σ L) : List SessionId := Effect.playedIn w.trace

theorem Mutters.played {w w' : World σ L} (mutters : w.Mutters w') : w'.played = w.played := by
  obtain ⟨effects, trace, asides⟩ := mutters.trace
  have silent : effects.filterMap Effect.plays? = [] :=
    List.filterMap_eq_nil_iff.mpr fun effect mem => Effect.plays?_aside (asides effect mem)
  simp [World.played, Effect.playedIn, trace, silent]

@[simp] theorem log_played (w : World σ L) (source : LogSource) (level : LogLevel)
    (message : String) (fields : List (String × String)) :
    (w.log source level message fields).played = w.played := rfl

@[simp] theorem logWithin_played (w : World σ L) (span : Option String) (source : LogSource)
    (level : LogLevel) (message : String) (fields : List (String × String)) :
    (w.logWithin span source level message fields).played = w.played := rfl

@[simp] theorem emit_played (w : World σ L) (event : PlaybackEvent) :
    (w.emit event).played = w.played := rfl

@[simp] theorem reply_played (w : World σ L) (r : Reply) : (w.reply r).played = w.played := rfl

@[simp] theorem setMode_played (w : World σ L) (mode : Mode) :
    (w.setMode mode).played = w.played := rfl

@[simp] theorem setCursor_played (w : World σ L) (cursor : Cursor) :
    (w.setCursor cursor).played = w.played := rfl

@[simp] theorem setFocusPaused_played (w : World σ L) (focusPaused : Bool) :
    (w.setFocusPaused focusPaused).played = w.played := rfl

@[simp] theorem setPlaylistOf_played (w : World σ L) (playlist : Playlist) :
    (w.setPlaylistOf playlist).played = w.played := rfl

@[simp] theorem moveCursor_played (w : World σ L) (index : Nat) :
    (w.moveCursor index).played = w.played := (w.moveCursor_mutters index).played

@[simp] theorem emitFailure_played (w : World σ L) (item : Item) (failure : PlaybackError) :
    (w.emitFailure item failure).played = w.played := rfl

@[simp] theorem denyFocus_played (w : World σ L) (item : Item) :
    (w.denyFocus item).played = w.played := rfl

variable [Surroundings σ L]

theorem call_played (w : World σ L) (call : HostCall) :
    (w.call call).2.played = call.plays?.toList ++ w.played := by
  unfold World.call World.played Effect.playedIn
  cases h : call.plays? <;> simp [Effect.plays?, h]

@[simp] theorem acquireFocus_played (w : World σ L) : w.acquireFocus.2.played = w.played := by
  unfold acquireFocus
  split
  · rfl
  · obtain ⟨result, outside, h⟩ := w.exists_call .requestFocus
    rw [h]
    rcases result with e | (_ | _) <;> rfl

@[simp] theorem releaseFocus_played (w : World σ L) : w.releaseFocus.played = w.played := by
  unfold releaseFocus
  split
  · obtain ⟨result, outside, h⟩ :=
      exists_call { w with engine := { w.engine with hasFocus := false } } .abandonFocus
    rw [h]
    cases result <;> rfl
  · rfl

@[simp] theorem unload_played (w : World σ L) (span : Option String) (session : SessionId) :
    (w.unload span session).played = w.played := by
  unfold unload
  obtain ⟨result, outside, h⟩ := w.exists_call (.unload session)
  rw [h]
  cases result <;> rfl

@[simp] theorem destroyOutput_played (w : World σ L) (span : Option String) :
    (w.destroyOutput span).played = w.played := by
  unfold destroyOutput
  split
  · rfl
  · exact unload_played _ span _

@[simp] theorem adopt_played (w : World σ L) (session : SessionId) :
    (w.adopt session).played = w.played := by
  unfold adopt
  split
  · rfl
  · exact w.destroyOutput_played none

@[simp] theorem discard_played (w : World σ L) (session : SessionId) :
    (w.discard session).played = w.played := by
  unfold discard
  split <;> simp

@[simp] theorem playSession_played (w : World σ L) (session : SessionId) :
    (w.playSession session).2.played = session :: w.played := w.call_played (.play session)

@[simp] theorem pauseSession_played (w : World σ L) (session : SessionId) :
    (w.pauseSession session).2.played = w.played := w.call_played (.pause session)

@[simp] theorem seekSession_played (w : World σ L) (session : SessionId) (position : Duration) :
    (w.seekSession session position).2.played = w.played := w.call_played (.seek session position)

@[simp] theorem sessionPosition_played (w : World σ L) (session : SessionId) :
    (w.sessionPosition session).2.played = w.played := by
  unfold sessionPosition
  obtain ⟨result, outside, h⟩ := w.exists_call (.position session)
  rw [h]
  cases result <;> rfl

@[simp] theorem releaseWakeLock_played (w : World σ L) : w.releaseWakeLock.played = w.played :=
  w.releaseWakeLock_mutters.played

@[simp] theorem acquireWakeLock_played (w : World σ L) : w.acquireWakeLock.played = w.played :=
  w.acquireWakeLock_mutters.played

@[simp] theorem screenOn_played (w : World σ L) : w.screenOn.2.played = w.played :=
  w.screenOn_mutters.played

@[simp] theorem releaseAll_played (w : World σ L) : w.releaseAll.played = w.played := by
  simp [releaseAll]

@[simp] theorem hideNotification_played (w : World σ L) : w.hideNotification.played = w.played :=
  w.hideNotification_mutters.played

@[simp] theorem refreshNotification_played (w : World σ L) :
    w.refreshNotification.played = w.played := w.refreshNotification_mutters.played

@[simp] theorem publish_played (w : World σ L) : w.publish.played = w.played :=
  w.publish_mutters.played

@[simp] theorem stop_played (w : World σ L) : w.stop.played = w.played := by simp [stop]

@[simp] theorem fail_played (w : World σ L) (item : Item) (failure : PlaybackError) :
    (w.fail item failure).played = w.played := by simp [fail]

@[simp] theorem reset_played (w : World σ L) : w.reset.played = w.played := by simp [reset]

@[simp] theorem start_played (w : World σ L) (item : Item) (autoplay : Bool)
    (seekTo : Option Duration) : (w.start item autoplay seekTo).played = w.played := by
  unfold start
  dsimp only
  rw [setMode_played]
  exact destroyOutput_played _ replacing

@[simp] theorem pause_played (w : World σ L) : w.pause.played = w.played := by
  unfold pause
  split
  case h_1 item session playing =>
    have paused := w.pauseSession_played session
    rcases h : w.pauseSession session with ⟨_ | _, w'⟩ <;> rw [h] at paused <;> simpa using paused
  case h_2 => rfl
  case h_3 => rfl

@[simp] theorem navigate_played (w : World σ L) (ahead : Bool) :
    (w.navigate ahead).played = w.played := by
  unfold navigate
  dsimp only
  generalize (if ahead then w.engine.cursor.forward else w.engine.cursor.backward) = moved
  split
  · rfl
  · split <;> simp

@[simp] theorem seekWithin_played (w : World σ L) (session : SessionId) (position : Duration) :
    (w.seekWithin session position).played = w.played := by
  unfold seekWithin
  have sought := w.seekSession_played session position
  rcases h : w.seekSession session position with ⟨_ | _, w'⟩ <;> rw [h] at sought <;>
    exact sought

@[simp] theorem seek_played (w : World σ L) (position : Duration) :
    (w.seek position).played = w.played := by
  unfold seek
  split
  · exact w.seekWithin_played _ position
  · exact w.seekWithin_played _ position
  · rfl
  · split <;> simp

@[simp] theorem setPlaylist_played (w : World σ L) (playlist : Playlist) :
    (w.setPlaylist playlist).played = w.played := by
  unfold setPlaylist
  dsimp only
  split
  · simp
  · split <;> simp

@[simp] theorem setIndex_played (w : World σ L) (index : Nat) :
    (w.setIndex index).2.played = w.played := by
  unfold setIndex
  dsimp only
  split
  · rfl
  · split
    · rfl
    · split
      · rfl
      · split <;> simp

@[simp] theorem progress_played (w : World σ L) : w.progress.2.played = w.played := by
  unfold progress
  split <;> simp

@[simp] theorem seekPrepared_played (w : World σ L) (session : SessionId)
    (seekTo : Option Duration) : (w.seekPrepared session seekTo).played = w.played := by
  unfold seekPrepared
  split
  case h_1 => rfl
  case h_2 position =>
    have sought := w.seekSession_played session position
    rcases h : w.seekSession session position with ⟨_ | _, w'⟩ <;> rw [h] at sought <;>
      exact sought

/-- A prepared session is played if audio focus can be had. -/
theorem begin_played (w : World σ L) (item : Item) (session : SessionId) :
    (w.begin item session).played = if w.acquireFocus.1 then session :: w.played else w.played := by
  unfold begin
  have focused := w.acquireFocus_played
  generalize w.acquireFocus = answer at focused ⊢
  rcases answer with ⟨_ | _, w'⟩
  · simpa using focused
  · have focused : w'.played = w.played := focused
    have plays := w'.playSession_played session
    dsimp only
    generalize w'.playSession session = answer at plays ⊢
    rcases answer with ⟨_ | _, w''⟩ <;> simpa [← focused] using plays

/-- Whether focus can be had depends on nothing but who is outside. -/
theorem acquireFocus_congr {w w' : World σ L} (focus : w'.engine.hasFocus = w.engine.hasFocus)
    (outside : w'.outside = w.outside) : w'.acquireFocus.1 = w.acquireFocus.1 := by
  unfold acquireFocus World.call
  rw [focus, outside]
  split
  · rfl
  · rcases Surroundings.answer L w.outside .requestFocus with ⟨e | (_ | _), _⟩ <;> rfl

theorem seekPrepared_outside {w w' : World σ L} (outside : w'.outside = w.outside)
    (session : SessionId) (seekTo : Option Duration) :
    (w'.seekPrepared session seekTo).outside = (w.seekPrepared session seekTo).outside := by
  unfold seekPrepared seekSession World.call
  rw [outside]
  split
  · exact outside
  · rename_i position
    rcases Surroundings.answer L w.outside (.seek session position) with ⟨_ | _, _⟩ <;> rfl

/-- Whether the host lets a prepared session be played, after it was moved to where its request
asked. -/
def grants (w : World σ L) (session : SessionId) (seekTo : Option Duration) : Bool :=
  (w.seekPrepared session seekTo).acquireFocus.1

theorem grants_congr {w w' : World σ L} (focus : w'.engine.hasFocus = w.engine.hasFocus)
    (outside : w'.outside = w.outside) (session : SessionId) (seekTo : Option Duration) :
    w'.grants session seekTo = w.grants session seekTo :=
  acquireFocus_congr (by simpa using focus) (seekPrepared_outside outside session seekTo)

/-- Whether the host moves a session back to its start. -/
def rewinds (w : World σ L) (session : SessionId) : Bool :=
  (w.seekSession session .zero).1 matches .ok _

theorem rewinds_congr {w w' : World σ L} (outside : w'.outside = w.outside) (session : SessionId) :
    w'.rewinds session = w.rewinds session := by
  unfold rewinds seekSession World.call
  rw [outside]

/-- The sessions that a message makes the host play although it does not ask for playback: one that
was prepared to be played, and a completed one under the repeat mode of one item. -/
def unbidden (w : World σ L) : Message → List SessionId
  | .prepared id _ (.ok prepared) =>
    match w.engine.mode with
    | .preparing _ request =>
      if request.id = id ∧ request.autoplay ∧ w.grants prepared.session request.seekTo then
        [prepared.session]
      else []
    | _ => []
  | .output (.completed session) =>
    if w.engine.mode.session? = some session ∧ w.engine.cursor.repeatMode = .item ∧
      w.rewinds session then [session] else []
  | _ => []

theorem unbidden_congr {w w' : World σ L} (engine : w'.engine = w.engine)
    (outside : w'.outside = w.outside) (m : Message) : w'.unbidden m = w.unbidden m := by
  have grants := grants_congr (congrArg (·.hasFocus) engine) outside
  have rewinds := rewinds_congr outside
  cases m with
  | prepared id item result => cases result <;> simp [unbidden, engine, grants]
  | output event => cases event <;> simp [unbidden, engine, rewinds]
  | _ => rfl

/-- A message makes at most one session be played. -/
theorem unbidden_reverse (w : World σ L) (m : Message) :
    (w.unbidden m).reverse = w.unbidden m := by
  unfold unbidden
  split
  · split
    · split <;> rfl
    · rfl
  · split <;> rfl
  · rfl

theorem settlePrepared_played (w : World σ L) (free : w.engine.live = none)
    (request : PrepareRequest) (item : Item) (prepared : PreparedSession) :
    (w.settlePrepared request item (.ok prepared)).played =
      if request.autoplay ∧ w.grants prepared.session request.seekTo then
        prepared.session :: w.played
      else w.played := by
  have settled : ∀ w' : World σ L, w'.engine.hasFocus = w.engine.hasFocus →
      w'.outside = w.outside → w'.played = w.played →
      (if request.autoplay then
          (w'.seekPrepared prepared.session request.seekTo).begin item prepared.session
        else (w'.seekPrepared prepared.session request.seekTo).setMode
          (.paused item prepared.session)).played =
        if request.autoplay ∧ w.grants prepared.session request.seekTo then
          prepared.session :: w.played
        else w.played := by
    intro w' focus outside played
    have grants := grants_congr focus outside prepared.session request.seekTo
    cases request.autoplay with
    | true =>
      rw [World.grants] at grants
      simp [begin_played, grants, played]
    | false => simp [played]
  -- Nothing is live yet, so the session is adopted without any call.
  have outside : ((w.setMode .idle).adopt prepared.session).outside = w.outside := by
    unfold adopt destroyOutput
    simp [World.setMode, World.record, free]
  have focus : ((w.setMode .idle).adopt prepared.session).engine.hasFocus = w.engine.hasFocus := by
    simp
  have played : ((w.setMode .idle).adopt prepared.session).played = w.played := by simp
  unfold settlePrepared
  dsimp only
  generalize (w.setMode .idle).adopt prepared.session = w' at outside focus played
  apply settled <;> split <;> assumption

theorem onPrepared_played (w : World σ L) (coherent : w.engine.Coherent) (id : Nat) (item : Item)
    (result : Except HostError PreparedSession) :
    (w.onPrepared id item result).played =
      w.unbidden (.prepared id item result) ++ w.played := by
  have discarded : (w.discardPrepared id result).played = w.played := by
    unfold discardPrepared
    cases result <;> simp
  unfold onPrepared
  split
  case h_1 active request preparing =>
    have free : w.engine.live = none := by rw [coherent.live, preparing]; rfl
    split
    case isTrue current =>
      cases result with
      | error => simp [settlePrepared, unbidden]
      | ok prepared =>
        rw [settlePrepared_played w free, unbidden, preparing]
        simp only [current, true_and]
        split <;> rfl
    case isFalse late =>
      cases result <;> simp [discarded, unbidden, preparing, late]
  case h_2 other =>
    cases result with
    | error => simp [discarded, unbidden]
    | ok prepared =>
      rw [discarded, unbidden]
      split
      case h_1 active request preparing => exact absurd preparing (other active request)
      case h_2 => rfl

theorem onCompleted_played (w : World σ L) (item : Item) (session : SessionId) :
    (w.onCompleted item session).played =
      if w.engine.cursor.repeatMode = .item ∧ w.rewinds session then session :: w.played
      else w.played := by
  unfold onCompleted
  dsimp only
  have rewinds : (w.log .engine .debug "Playback completed" [("file", item.fileName)]).rewinds
      session = w.rewinds session := rewinds_congr rfl session
  generalize noted : w.log .engine .debug "Playback completed" [("file", item.fileName)] = logged
    at rewinds
  have played : logged.played = w.played := by rw [← noted]; rfl
  have cursor : logged.engine.cursor = w.engine.cursor := by rw [← noted]; rfl
  rw [← rewinds, ← cursor, ← played]
  split
  case isTrue again =>
    have sought := logged.seekSession_played session .zero
    unfold replay World.rewinds
    generalize logged.seekSession session .zero = answer at sought
    rcases answer with ⟨_ | _, w'⟩
    · simpa [again] using sought
    · have sought : w'.played = logged.played := sought
      have plays := w'.playSession_played session
      dsimp only
      generalize w'.playSession session = answer at plays ⊢
      rcases answer with ⟨_ | _, w''⟩ <;> simpa [again, ← sought] using plays
  case isFalse once =>
    split <;> simp [once]

theorem onOutput_played (w : World σ L) (event : OutputEvent) :
    (w.onOutput event).played = w.unbidden (.output event) ++ w.played := by
  have active : ∀ item session, w.engine.mode.session? = some session →
      (if session = event.session then w.onLiveOutput item session event
        else w.ignoreOutput event).played = w.unbidden (.output event) ++ w.played := by
    intro item session live
    cases event with
    | completed completed =>
      simp only [unbidden, live, Option.some.injEq]
      split
      case isTrue same =>
        have same : session = completed := same
        simp only [same, true_and]
        rw [onLiveOutput, onCompleted_played]
        split <;> rfl
      case isFalse other =>
        have other : ¬ session = completed := other
        simp [other, ignoreOutput]
    | failed => split <;> rfl
  unfold onOutput
  split
  case h_1 item session playing => exact active item session (congrArg Mode.session? playing)
  case h_2 item session paused => exact active item session (congrArg Mode.session? paused)
  case h_3 playing paused =>
    have dead : w.engine.mode.session? = none := by
      cases mode : w.engine.mode with
      | idle | preparing => rfl
      | playing item session => exact absurd mode (playing item session)
      | paused item session => exact absurd mode (paused item session)
    cases event <;> simp [unbidden, dead, ignoreOutput]

/-- A loss of focus makes nothing be played. -/
theorem onFocus_played (w : World σ L) {change : FocusChange} (loss : change ≠ .gained) :
    (w.onFocus change).played = w.played := by
  cases change with
  | gained => contradiction
  | lost =>
    simp only [onFocus, releaseFocus_played]
    split <;> simp
  | lostTransient =>
    simp only [onFocus]
    split <;> simp

@[simp] theorem onLifecycle_played (w : World σ L) (event : LifecycleEvent) :
    (w.onLifecycle event).played = w.played := by
  cases event with
  | becameBackground =>
    unfold onLifecycle
    dsimp only
    split
    · rfl
    · have seen := screenOn_played { w with engine := { w.engine with backgrounded := true } }
      generalize screenOn { w with engine := { w.engine with backgrounded := true } } = answer
        at seen ⊢
      obtain ⟨on, w'⟩ := answer
      have kept : (if on then w'.acquireWakeLock else w').played = w'.played := by
        cases on <;> simp
      exact (refreshNotification_played _).trans (kept.trans seen)
  | becameForeground =>
    have kept : ∀ w' : World σ L, w'.releaseWakeLock.hideNotification.played = w'.played := by simp
    exact kept _

@[simp] theorem onTick_played (w : World σ L) : w.onTick.played = w.played := by
  unfold onTick
  split
  case h_1 item session playing =>
    have known := w.sessionPosition_played session
    generalize w.sessionPosition session = answer at known ⊢
    rcases answer with ⟨_ | _, w'⟩ <;> exact known
  case h_2 => rfl

/-- What a message that does not ask for playback makes be played. -/
theorem handle_played (w : World σ L) (coherent : w.engine.Coherent) {m : Message}
    (unasked : m.asksToPlay = false) : (w.handle m).played = w.unbidden m ++ w.played := by
  cases m with
  | play | playItem | playInPlaylist | toggle | forward | backward => contradiction
  | prepared id item result => exact w.onPrepared_played coherent id item result
  | output event => exact w.onOutput_played event
  | focus change =>
    refine w.onFocus_played ?_
    rintro rfl
    contradiction
  | _ => simp [handle, unbidden, pauseByUser, setRepeatMode, setShuffle] <;> rfl

theorem turn_played (w : World σ L) (coherent : w.engine.Coherent) {m : Message}
    (unasked : m.asksToPlay = false) : (w.turn m).played = w.unbidden m ++ w.played := by
  let logged := w.log .engine .trace "Engine command" [("command", m.name)]
  have same : logged.unbidden m = w.unbidden m :=
    unbidden_congr (show logged.engine = w.engine from rfl) rfl m
  rw [← same]
  exact (logged.handle m).publish_played.trans (logged.handle_played coherent unasked)

end World
end MediaPlayback
