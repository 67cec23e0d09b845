import MediaPlayback.Proofs.Publish
import MediaPlayback.Proofs.Silence

/-! What the audio output is asked for while an engine plays on by itself: when it starts the current
item, when a prepared session is played, and when a session was completed. -/

namespace MediaPlayback

/-- What the host's audio output is asked for. -/
inductive OutputCall where
  | prepare (path : Path)
  | play (session : SessionId)
  | pause (session : SessionId)
  | seek (session : SessionId) (position : Duration)
  | position (session : SessionId)
  | unload (session : SessionId)
deriving DecidableEq, Repr

/-- What a call of the host asks its audio output for. -/
def HostCall.output? : HostCall → Option OutputCall
  | .play session => some (.play session)
  | .pause session => some (.pause session)
  | .seek session target => some (.seek session target)
  | .position session => some (.position session)
  | .unload session => some (.unload session)
  | _ => none

namespace Effect

variable {L : Type}

def output? : Effect L → Option OutputCall
  | .prepares output => some (.prepare output.path)
  | .called call _ => call.output?
  | _ => none

/-- Whether the host refuses what it takes to play on: audio focus, or to move or play a session. -/
def refuses : Effect L → Bool
  | .called .requestFocus (.ok .granted) => false
  | .called .requestFocus _ => true
  | .called (.play _) (.error _) => true
  | .called (.seek ..) (.error _) => true
  | _ => false

theorem quiet_of_aside {effect : Effect L} (aside : effect.isAside)
    (unasked : effect.asked? = none) : effect.output? = none ∧ effect.refuses = false := by
  cases effect with
  | called call result => cases call <;> first | exact ⟨rfl, rfl⟩ | contradiction
  | prepares => contradiction
  | _ => exact ⟨rfl, rfl⟩

end Effect

/-- What a trace tells of dealings with the audio output. -/
structure Dealings where
  /-- What it was asked for, the last of it first. -/
  calls : List OutputCall
  refusals : Nat

namespace Dealings

def of {L : Type} (trace : List (Effect L)) : Dealings :=
  ⟨trace.filterMap Effect.output?, (trace.filter Effect.refuses).length⟩

/-- After one more call. -/
def call (d : Dealings) (call : OutputCall) : Dealings := { d with calls := call :: d.calls }

/-- After a session, if there is one, was unloaded. -/
def unload? (d : Dealings) : Option SessionId → Dealings
  | some session => d.call (.unload session)
  | none => d

/-- After the host agreed to something or refused it. -/
def answered {ε α : Type} (d : Dealings) (result : Except ε α) : Dealings :=
  match result with
  | .ok _ => d
  | .error _ => { d with refusals := d.refusals + 1 }

@[simp] theorem unload?_refusals (d : Dealings) (session : Option SessionId) :
    (d.unload? session).refusals = d.refusals := by
  cases session <;> rfl

end Dealings

theorem Engine.startRequest_seekTo (e : Engine) (autoplay : Bool) (seekTo : Option Duration) :
    (e.startRequest autoplay seekTo).seekTo = seekTo := by
  unfold Engine.startRequest
  cases autoplay <;> dsimp only <;> split <;> rfl

namespace World

variable {σ L : Type}

def dealings (w : World σ L) : Dealings := .of w.trace

/-- What leaves sessions, focus and prepares alone is no dealing with the audio output, unless a
prepare is begun. -/
theorem Mutters.dealings {w w' : World σ L} (mutters : w.Mutters w')
    (asked : w'.coverage.asked = w.coverage.asked) : w'.dealings = w.dealings := by
  obtain ⟨effects, trace, asides⟩ := mutters.trace
  have asked : (effects ++ w.trace).filterMap Effect.asked? = w.trace.filterMap Effect.asked? := by
    rw [← trace]
    exact asked
  rw [List.filterMap_append, List.append_left_eq_self] at asked
  have quiet : ∀ effect ∈ effects, effect.output? = none ∧ effect.refuses = false :=
    fun effect mem => Effect.quiet_of_aside (asides effect mem)
      (List.filterMap_eq_nil_iff.mp asked effect mem)
  have calls : effects.filterMap Effect.output? = [] :=
    List.filterMap_eq_nil_iff.mpr fun effect mem => (quiet effect mem).1
  have refusals : effects.filter Effect.refuses = [] :=
    List.filter_eq_nil_iff.mpr fun effect mem => by simp [(quiet effect mem).2]
  unfold World.dealings Dealings.of
  rw [trace, List.filterMap_append, calls, List.filter_append, refusals]
  rfl

@[simp] theorem setCursor_dealings (w : World σ L) (cursor : Cursor) :
    (w.setCursor cursor).dealings = w.dealings := rfl

variable [Surroundings σ L]

@[simp] theorem releaseWakeLock_dealings (w : World σ L) :
    w.releaseWakeLock.dealings = w.dealings :=
  w.releaseWakeLock_mutters.dealings (congrArg (fun f : Front L => f.asked) w.releaseWakeLock_front)

@[simp] theorem hideNotification_dealings (w : World σ L) :
    w.hideNotification.dealings = w.dealings :=
  w.hideNotification_mutters.dealings
    (congrArg (fun f : Front L => f.asked) w.hideNotification_front)

@[simp] theorem publish_dealings (w : World σ L) : w.publish.dealings = w.dealings :=
  w.publish_mutters.dealings w.publish_asked

@[simp] theorem releaseFocus_dealings (w : World σ L) : w.releaseFocus.dealings = w.dealings := by
  unfold releaseFocus
  split
  · obtain ⟨result, outside, h⟩ :=
      exists_call { w with engine := { w.engine with hasFocus := false } } .abandonFocus
    rw [h]
    cases result <;> rfl
  · rfl

theorem destroyOutput_dealings (w : World σ L) (span : Option String) :
    (w.destroyOutput span).dealings = w.dealings.unload? w.engine.live ∧
    (w.destroyOutput span).tasks = w.tasks := by
  unfold destroyOutput
  split
  case h_1 free => exact ⟨by rw [free]; rfl, rfl⟩
  case h_2 session live =>
    obtain ⟨result, outside, h⟩ :=
      exists_call { w with engine := { w.engine with live := none } } (.unload session)
    unfold unload
    rw [h, live]
    cases result <;> exact ⟨rfl, rfl⟩

theorem releaseFocus_tasks (w : World σ L) : w.releaseFocus.tasks = w.tasks := by
  unfold releaseFocus
  split
  · obtain ⟨result, outside, h⟩ :=
      exists_call { w with engine := { w.engine with hasFocus := false } } .abandonFocus
    rw [h]
    cases result <;> rfl
  · rfl

theorem reset_dealings (w : World σ L) :
    w.reset.dealings = w.dealings.unload? w.engine.live ∧ w.reset.tasks = w.tasks := by
  obtain ⟨dealings, tasks⟩ :=
    destroyOutput_dealings ((w.setMode .idle).setFocusPaused false) none
  unfold reset releaseAll
  constructor
  · simp only [hideNotification_dealings, setCursor_dealings, releaseWakeLock_dealings,
      releaseFocus_dealings]
    exact dealings
  · refine (hideNotification_mutters _).tasks.trans ?_
    refine (releaseWakeLock_mutters _).tasks.trans ?_
    rw [releaseFocus_tasks]
    exact tasks

/-- An item is to be prepared and then played, and that is the last task. -/
def Starts (w : World σ L) (item : Item) (w' : World σ L) : Prop :=
  ∃ request output, w'.engine.mode = .preparing item request ∧ request.autoplay ∧
    request.seekTo = none ∧ output.path = item.path ∧
    w'.tasks = w.tasks ++ [⟨request.id, item, output⟩]

/-- The live session makes way for an item that is to be prepared. -/
theorem start_replaces (w : World σ L) (item : Item) (autoplay : Bool) (seekTo : Option Duration) :
    (w.start item autoplay seekTo).dealings = w.dealings.unload? w.engine.live ∧
    ∃ output, output.path = item.path ∧ (w.start item autoplay seekTo).tasks =
      w.tasks ++ [⟨(w.engine.startRequest autoplay seekTo).id, item, output⟩] := by
  let request := w.engine.startRequest autoplay seekTo
  let noted := { w with
    engine := { w.engine with focusPaused := false, lastRequest := request.id } }.log .engine .debug
      "Preparing output primitive"
      [("request_id", toString request.id), ("file", baseName item.path.text),
        ("autoplay", toString autoplay)]
  obtain ⟨dealings, tasks⟩ := noted.destroyOutput_dealings replacing
  exact ⟨dealings, w.catalog.outputRequest item, rfl,
    congrArg (· ++ [(⟨request.id, item, w.catalog.outputRequest item⟩ : PrepareTask)]) tasks⟩

/-- The live session makes way for an item that is to be played. -/
theorem start_dealings (w : World σ L) (item : Item) :
    (w.start item true none).dealings = w.dealings.unload? w.engine.live ∧
    w.Starts item (w.start item true none) := by
  obtain ⟨dealings, output, path, tasks⟩ := w.start_replaces item true none
  exact ⟨dealings, w.engine.startRequest true none, output, rfl,
    w.engine.startRequest_autoplay true none, w.engine.startRequest_seekTo true none, path, tasks⟩

/-- Publishing is no dealing with the audio output. -/
theorem turn_dealings (w : World σ L) (m : Message) :
    let handled := (w.log .engine .trace "Engine command" [("command", m.name)]).handle m
    (∃ shown, (w.turn m).engine = handled.engine.published shown) ∧
    (w.turn m).dealings = handled.dealings ∧ (w.turn m).tasks = handled.tasks :=
  ⟨publish_engine _, publish_dealings _, (publish_mutters _).tasks⟩

theorem play_of_idle (w : World σ L) {item : Item} (idle : w.engine.mode = .idle)
    (current : w.engine.cursor.currentItem? = some item) :
    w.play = (w.setFocusPaused false).start item true none := by
  unfold play
  dsimp only
  rw [setFocusPaused_engine]
  dsimp only
  rw [idle, current]

/-- An idle engine that is told to play starts the current item. -/
theorem turn_of_told (w : World σ L) {m : Message} (told : m = .play ∨ m = .toggle) {item : Item}
    (idle : w.engine.mode = .idle) (free : w.engine.live = none)
    (current : w.engine.cursor.currentItem? = some item) :
    (w.turn m).dealings = w.dealings ∧ w.Starts item (w.turn m) ∧
    (w.turn m).engine.cursor = w.engine.cursor := by
  let noted := w.log .engine .trace "Engine command" [("command", m.name)]
  have plays : noted.handle m = (noted.setFocusPaused false).start item true none := by
    have starts := noted.play_of_idle idle current
    rcases told with rfl | rfl
    · exact starts
    · have unwanted : noted.engine.mode.wantsPlayback = false := by
        rw [show noted.engine.mode = .idle from idle]
        rfl
      rw [handle, toggle, unwanted]
      exact starts
  obtain ⟨⟨shown, engine⟩, dealings, tasks⟩ := w.turn_dealings m
  rw [show w.log .engine .trace "Engine command" [("command", m.name)] = noted from rfl, plays]
    at engine dealings tasks
  obtain ⟨calls, request, output, mode, auto, still, path, task⟩ :=
    (noted.setFocusPaused false).start_dealings item
  have free : (noted.setFocusPaused false).engine.live = none := free
  rw [free] at calls
  refine ⟨dealings.trans calls, ⟨request, output, ?_, auto, still, path, tasks.trans task⟩, ?_⟩
  · rw [engine]
    exact mode
  · rw [engine, start_engine]
    rfl

theorem acquireFocus_dealings (w : World σ L) :
    w.acquireFocus.2.dealings = { w.dealings with
      refusals := w.dealings.refusals + if w.acquireFocus.1 then 0 else 1 } ∧
    w.acquireFocus.2.tasks = w.tasks := by
  unfold acquireFocus
  split
  · exact ⟨rfl, rfl⟩
  · obtain ⟨result, outside, h⟩ := w.exists_call .requestFocus
    rw [h]
    rcases result with e | (_ | _) <;> exact ⟨rfl, rfl⟩

theorem playSession_dealings (w : World σ L) (session : SessionId) :
    (w.playSession session).2.dealings =
      (w.dealings.call (.play session)).answered (w.playSession session).1 := by
  obtain ⟨result, outside, h⟩ := w.exists_call (.play session)
  unfold playSession
  rw [h]
  cases result <;> rfl

theorem seekSession_dealings (w : World σ L) (session : SessionId) (position : Duration) :
    (w.seekSession session position).2.dealings =
      (w.dealings.call (.seek session position)).answered (w.seekSession session position).1 := by
  obtain ⟨result, outside, h⟩ := w.exists_call (.seek session position)
  unfold seekSession
  rw [h]
  cases result <;> rfl

theorem fail_refusals (w : World σ L) (item : Item) (failure : PlaybackError) :
    (w.fail item failure).dealings.refusals = w.dealings.refusals := by
  unfold fail stop
  rw [releaseFocus_dealings, (destroyOutput_dealings _ none).1, Dealings.unload?_refusals]
  rfl

/-- A session that is to be played with audio focus is played, or the host refuses something. -/
theorem acquireFocus_playSession_dealings (w : World σ L) (session : SessionId) :
    (∃ w', w.acquireFocus = (false, w') ∧ w'.dealings.refusals = w.dealings.refusals + 1) ∨
    ∃ w' result w'', w.acquireFocus = (true, w') ∧ w'.playSession session = (result, w'') ∧
      w''.dealings = (w.dealings.call (.play session)).answered result ∧
      w''.engine = { w.engine with hasFocus := true } ∧ w''.tasks = w.tasks := by
  obtain ⟨dealings, tasks⟩ := w.acquireFocus_dealings
  have engine := w.acquireFocus_engine
  generalize w.acquireFocus = answer at dealings tasks engine ⊢
  rcases answer with ⟨_ | _, w'⟩
  · exact .inl ⟨w', rfl, congrArg Dealings.refusals dealings⟩
  · have focused : w'.dealings = w.dealings := dealings
    refine .inr ⟨w', _, _, rfl, rfl, ?_, (w'.playSession_engine session).trans engine, tasks⟩
    rw [← focused]
    exact w'.playSession_dealings session

/-- A prepared session is played, unless the host refuses. -/
theorem begin_dealings (w : World σ L) (item : Item) (session : SessionId)
    (granted : (w.begin item session).dealings.refusals = w.dealings.refusals) :
    (w.begin item session).dealings = w.dealings.call (.play session) ∧
    (w.begin item session).engine =
      { w.engine with mode := .playing item session, hasFocus := true } ∧
    (w.begin item session).tasks = w.tasks := by
  unfold begin at granted ⊢
  obtain ⟨w', denied, refused⟩ | ⟨w', result, w'', focused, played, dealings, engine, tasks⟩ :=
    w.acquireFocus_playSession_dealings session
  · rw [denied] at granted
    have refused : ((w'.denyFocus item).destroyOutput none).dealings.refusals =
        w.dealings.refusals + 1 := by
      rw [(destroyOutput_dealings _ none).1, Dealings.unload?_refusals]
      exact refused
    exact absurd (refused.symm.trans granted) (Nat.succ_ne_self _)
  · simp only [focused, played] at granted ⊢
    cases result with
    | ok => exact ⟨dealings, by rw [setMode_engine, engine], tasks⟩
    | error failure =>
      dsimp only at granted
      rw [fail_refusals, dealings] at granted
      exact absurd granted (Nat.succ_ne_self _)

/-- A paused session is played, unless the host refuses. -/
theorem resume_dealings (w : World σ L) (item : Item) (session : SessionId)
    (granted : (w.resume item session).dealings.refusals = w.dealings.refusals) :
    (w.resume item session).engine =
      { w.engine with mode := .playing item session, hasFocus := true } := by
  unfold resume at granted ⊢
  obtain ⟨w', denied, refused⟩ | ⟨w', result, w'', focused, played, dealings, engine, _⟩ :=
    w.acquireFocus_playSession_dealings session
  · rw [denied] at granted
    exact absurd (refused.symm.trans granted) (Nat.succ_ne_self _)
  · simp only [focused, played] at granted ⊢
    cases result with
    | ok => exact (setMode_engine ..).trans (by rw [engine])
    | error failure =>
      dsimp only at granted
      rw [fail_refusals, dealings] at granted
      exact absurd granted (Nat.succ_ne_self _)

/-- An item that was prepared to be played is begun. Nothing is live yet, so its session is adopted
without any call. -/
theorem settlePrepared_begins (w : World σ L) {request : PrepareRequest} (item : Item)
    (prepared : PreparedSession) (auto : request.autoplay) (still : request.seekTo = none)
    (free : w.engine.live = none) :
    ∃ adopted : World σ L, w.settlePrepared request item (.ok prepared) =
        adopted.begin item prepared.session ∧
      adopted.engine = { w.engine with mode := .idle, live := some prepared.session } ∧
      adopted.dealings = w.dealings ∧ adopted.tasks = w.tasks := by
  have engine := (w.setMode .idle).adopt_engine prepared.session
  have quiet : ((w.setMode .idle).adopt prepared.session).dealings = w.dealings ∧
      ((w.setMode .idle).adopt prepared.session).tasks = w.tasks := by
    have free : (w.setMode .idle).engine.live = none := free
    unfold adopt
    obtain ⟨dealings, tasks⟩ := (w.setMode .idle).destroyOutput_dealings none
    rw [free] at dealings ⊢
    rw [if_neg nofun]
    exact ⟨dealings, tasks⟩
  unfold settlePrepared
  dsimp only
  rw [auto, still, if_pos rfl]
  generalize (w.setMode .idle).adopt prepared.session = adopted at engine quiet ⊢
  cases prepared.duration with
  | none => exact ⟨adopted, rfl, engine, quiet⟩
  | some d => exact ⟨_, rfl, engine, quiet⟩

/-- The awaited session is played, unless the host refuses. -/
theorem turn_of_prepared (w : World σ L) {request : PrepareRequest} {active item : Item}
    {prepared : PreparedSession} (preparing : w.engine.mode = .preparing active request)
    (auto : request.autoplay) (still : request.seekTo = none) (free : w.engine.live = none)
    (granted : (w.turn (.prepared request.id item (.ok prepared))).dealings.refusals =
      w.dealings.refusals) :
    let turned := w.turn (.prepared request.id item (.ok prepared))
    turned.dealings = w.dealings.call (.play prepared.session) ∧
    turned.engine.mode = .playing item prepared.session ∧
    turned.engine.cursor = w.engine.cursor ∧ turned.tasks = w.tasks := by
  let m : Message := .prepared request.id item (.ok prepared)
  let noted := w.log .engine .trace "Engine command" [("command", m.name)]
  have settles : noted.handle m = noted.settlePrepared request item (.ok prepared) :=
    noted.onPrepared_of_awaited preparing item (.ok prepared)
  obtain ⟨adopted, begins, engine, quiet, tasks⟩ :=
    noted.settlePrepared_begins item prepared auto still free
  obtain ⟨⟨shown, published⟩, dealings, left⟩ := w.turn_dealings m
  rw [show w.log .engine .trace "Engine command" [("command", m.name)] = noted from rfl, settles,
    begins] at published dealings left
  have agreed : (adopted.begin item prepared.session).dealings.refusals =
      adopted.dealings.refusals := by
    rw [← dealings, quiet]
    exact granted
  obtain ⟨calls, playing, same⟩ := adopted.begin_dealings item prepared.session agreed
  refine ⟨?_, ?_, ?_, left.trans (same.trans tasks)⟩
  · rw [dealings, calls, quiet]
    rfl
  · rw [published, playing]
    rfl
  · rw [published, playing, engine]
    rfl

/-- A session is played again from its start, unless the host refuses. -/
theorem replay_dealings (w : World σ L) (session : SessionId) :
    (w.replay session).2.tasks = w.tasks ∧
    ((w.replay session).1 = .ok () ∧
        (w.replay session).2.dealings =
          (w.dealings.call (.seek session .zero)).call (.play session) ∨
      (w.replay session).2.dealings.refusals = w.dealings.refusals + 1) := by
  unfold replay
  have sought := w.seekSession_dealings session .zero
  have still : (w.seekSession session .zero).2.tasks = w.tasks := rfl
  generalize w.seekSession session .zero = answer at sought still ⊢
  rcases answer with ⟨failure | _, w'⟩
  · exact ⟨still, .inr (congrArg Dealings.refusals sought)⟩
  · have moved : w'.dealings = w.dealings.call (.seek session .zero) := sought
    have played := w'.playSession_dealings session
    have left : (w'.playSession session).2.tasks = w'.tasks := rfl
    dsimp only
    generalize w'.playSession session = answer at played left ⊢
    rw [moved] at played
    rcases answer with ⟨failure | _, w''⟩
    · exact ⟨left.trans still, .inr (congrArg Dealings.refusals played)⟩
    · exact ⟨left.trans still, .inl ⟨rfl, played⟩⟩

/-- Under the repeat mode of one item, a completed session is played again, unless the host refuses. -/
theorem onCompleted_of_again (w : World σ L) (item : Item) (session : SessionId)
    (again : w.engine.cursor.repeatMode = .item)
    (granted : (w.onCompleted item session).dealings.refusals = w.dealings.refusals) :
    (w.onCompleted item session).dealings =
      (w.dealings.call (.seek session .zero)).call (.play session) ∧
    (w.onCompleted item session).engine = { w.engine with mode := .playing item session } ∧
    (w.onCompleted item session).tasks = w.tasks := by
  let logged := w.log .engine .debug "Playback completed" [("file", item.fileName)]
  have again : logged.engine.cursor.repeatMode = .item := again
  obtain ⟨still, replayed⟩ := logged.replay_dealings session
  have same := logged.replay_engine session
  unfold onCompleted at granted ⊢
  dsimp only at granted ⊢
  rw [if_pos again] at granted ⊢
  generalize logged.replay session = answer at granted still replayed same ⊢
  rcases answer with ⟨failure | _, w'⟩
  · rcases replayed with ⟨ok, _⟩ | refused
    · contradiction
    · dsimp only at granted
      rw [(start_dealings _ item).1, Dealings.unload?_refusals] at granted
      exact absurd (refused.symm.trans granted) (Nat.succ_ne_self _)
  · have same : w'.engine = w.engine := same
    rcases replayed with ⟨_, dealings⟩ | refused
    · exact ⟨dealings, by rw [setMode_engine, same], still⟩
    · exact absurd (refused.symm.trans granted) (Nat.succ_ne_self _)

/-- Otherwise the session is unloaded. Then the next item starts, if there is one. -/
theorem onCompleted_of_next (w : World σ L) (item : Item) {session : SessionId} {next : Item}
    {cursor : Cursor} (once : w.engine.cursor.repeatMode ≠ .item)
    (playing : w.engine.mode = .playing item session) (live : w.engine.live = some session)
    (can : w.engine.cursor.canForward) (ahead : w.engine.cursor.forward = (some next, cursor)) :
    (w.onCompleted item session).dealings = w.dealings.call (.unload session) ∧
    (w.onCompleted item session).engine.cursor = cursor ∧
    w.Starts next (w.onCompleted item session) := by
  let logged := w.log .engine .debug "Playback completed" [("file", item.fileName)]
  have starts : w.onCompleted item session = (logged.setCursor cursor).start next true none := by
    have once : logged.engine.cursor.repeatMode ≠ .item := once
    have can : logged.engine.cursor.canForward = true := can
    have active : (logged.setCursor cursor).engine.mode ≠ .idle := by
      rw [show (logged.setCursor cursor).engine.mode = .playing item session from playing]
      nofun
    unfold onCompleted
    dsimp only
    rw [if_neg once, if_pos can]
    unfold navigate
    rw [if_pos rfl, show logged.engine.cursor.forward = _ from ahead]
    exact if_neg active
  obtain ⟨dealings, started⟩ := (logged.setCursor cursor).start_dealings next
  rw [show (logged.setCursor cursor).engine.live = some session from live] at dealings
  rw [starts]
  exact ⟨dealings, by rw [start_engine]; rfl, started⟩

/-- At the end of the playlist everything is given back. -/
theorem onCompleted_of_last (w : World σ L) (item : Item) {session : SessionId}
    (once : w.engine.cursor.repeatMode ≠ .item) (live : w.engine.live = some session)
    (last : w.engine.cursor.canForward = false) :
    (w.onCompleted item session).dealings = w.dealings.call (.unload session) ∧
    (w.onCompleted item session).engine = w.engine.cleared ∧
    (w.onCompleted item session).tasks = w.tasks := by
  let logged := w.log .engine .debug "Playback completed" [("file", item.fileName)]
  have resets : w.onCompleted item session = logged.reset := by
    have once : logged.engine.cursor.repeatMode ≠ .item := once
    have last : logged.engine.cursor.canForward = false := last
    unfold onCompleted
    dsimp only
    rw [if_neg once, last]
    exact if_neg Bool.false_ne_true
  obtain ⟨dealings, tasks⟩ := logged.reset_dealings
  rw [show logged.engine.live = some session from live] at dealings
  rw [resets]
  exact ⟨dealings, logged.reset_engine, tasks⟩

/-- What a turn makes of the completion of what is playing. -/
theorem turn_of_playing_completed (w : World σ L) {item : Item} {session : SessionId}
    (playing : w.engine.mode = .playing item session) :
    let m : Message := .output (.completed session)
    let completed := (w.log .engine .trace "Engine command" [("command", m.name)]).onCompleted item
      session
    (∃ shown, (w.turn m).engine = completed.engine.published shown) ∧
    (w.turn m).dealings = completed.dealings ∧ (w.turn m).tasks = completed.tasks := by
  intro m completed
  have completes : (w.log .engine .trace "Engine command" [("command", m.name)]).onOutput
      (.completed session) = completed := by
    unfold onOutput
    rw [log_engine, playing]
    exact if_pos rfl
  rw [← completes]
  exact w.turn_dealings m

end World
end MediaPlayback
