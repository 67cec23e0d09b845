import MediaPlayback.Proofs.LatestStart
import MediaPlayback.Proofs.Silence
import MediaPlayback.Proofs.View

/-! The state that others see has no glitches. It leaves `stopped` only when a session that is awaited
was prepared, it comes back to `stopped` only when nothing is active any more, and while a live item
is replaced it says what the request that is awaited leads to. -/

namespace MediaPlayback

namespace PrepareRequest

/-- What a request reports, unless it is a fresh one, is what it leads to. -/
def Candid (r : PrepareRequest) : Prop :=
  r.reported ≠ .stopped → r.reported = if r.autoplay then .playing else .paused

theorem candid_resume (r : PrepareRequest) : r.resume.Candid := by
  unfold Candid resume
  cases r.reported <;> simp

theorem candid_hold (r : PrepareRequest) : r.hold.Candid := by
  unfold Candid hold
  cases r.reported <;> simp

theorem Candid.reported_iff {r : PrepareRequest} (candid : r.Candid) (active : r.reported ≠ .stopped) :
    (r.reported = .playing ↔ r.autoplay = true) ∧ (r.reported = .paused ↔ r.autoplay = false) := by
  have reported := candid active
  cases autoplay : r.autoplay <;> simp [reported, autoplay]

end PrepareRequest

theorem Engine.candid_startRequest (e : Engine) (autoplay : Bool) (seekTo : Option Duration) :
    (e.startRequest autoplay seekTo).Candid := by
  unfold Engine.startRequest
  dsimp only
  split
  case isTrue stopped => exact fun active => absurd stopped active
  case isFalse =>
    split
    · exact PrepareRequest.candid_resume _
    · exact PrepareRequest.candid_hold _

/-- A request that is awaited reports what it leads to. -/
def Mode.Candid : Mode → Prop
  | .preparing _ request => request.Candid
  | _ => True

namespace Engine

variable {e e' : Engine} {item : Item} {session : SessionId}

theorem Begins.candid (begins : e.Begins item session e') : e'.mode.Candid := by
  cases begins <;> trivial

theorem Resumes.candid (resumes : e.Resumes item session e') : e'.mode.Candid := by
  cases resumes <;> trivial

theorem Pauses.candid (pauses : e.Pauses e') (candid : e.mode.Candid) : e'.mode.Candid := by
  cases pauses with
  | paused | failed => trivial
  | held => exact PrepareRequest.candid_hold _
  | kept => exact candid

theorem Plays.candid (plays : e.Plays e') (candid : e.mode.Candid) : e'.mode.Candid := by
  cases plays with
  | resumed _ resumes => exact resumes.candid
  | awaited => exact PrepareRequest.candid_resume _
  | started => exact e.candid_startRequest true none
  | nothing | playing => exact candid

theorem navigated_candid (candid : e.mode.Candid) (ahead : Bool) :
    (e.navigated ahead).mode.Candid := by
  unfold Engine.navigated
  dsimp only
  split
  · exact candid
  · split
    · exact candid_startRequest _ true none
    · trivial

/-- Every new request reports what it leads to, and so does one that is held or resumed. Seeking
changes neither. -/
theorem Handles.candid {m : Message} (handles : e.Handles m e') (candid : e.mode.Candid) :
    e'.mode.Candid := by
  cases handles with
  | play plays | togglePlay _ plays => exact plays.candid candid
  | pause pauses | togglePause _ pauses | lostPlaying _ pauses | lostTransientPlaying _ pauses =>
    exact pauses.candid candid
  | playItemInside | playItemOutside | chosen | seekStarted | indexStarted | recreated =>
    exact candid_startRequest _ _ _
  | forward | backward | advanced => exact navigated_candid candid _
  | seekAwaited preparing =>
    rw [preparing] at candid
    exact candid
  | reselected _ _ resumes | gainedPaused _ _ resumes => exact resumes.candid
  | reselectedAwaited => exact PrepareRequest.candid_resume _
  | setPlaylistAround =>
    rw [pointed_mode]
    exact candid
  | preparedBegun _ _ _ begins => exact begins.candid
  | reset | setPlaylistWithout | preparedFailed | preparedHeld | replayed | finished => trivial
  | seekLive | seekNothing | setRepeatMode | setShuffle | reselectedPlaying | notChosen
  | setPlaylist | indexOutside | indexOnly | snapshot | progress | preparedLate | outputStale
  | outputFailed | lost | lostTransient | gained | background | foreground | tick | shutdown =>
    exact candid

/-- The engine goes on to report that playback is stopped. -/
def Rests (e e' : Engine) : Prop := e.mode.reported = .stopped → e'.mode.reported = .stopped

theorem Rests.started (item : Item) (autoplay : Bool) (seekTo : Option Duration) :
    e.Rests (e.started item autoplay seekTo) := (e.startRequest_reported autoplay seekTo).mpr

theorem Rests.of_active (active : e.mode.reported ≠ .stopped) (e' : Engine) : e.Rests e' :=
  fun stopped => absurd stopped active

theorem Rests.awaiting {request request' : PrepareRequest}
    (preparing : e.mode = .preparing item request)
    (same : request'.reported = .stopped ↔ request.reported = .stopped) (changed : Engine)
    (mode : changed.mode = .preparing item request') : e.Rests changed := by
  intro stopped
  rw [preparing] at stopped
  rw [mode]
  exact same.mpr stopped

theorem active_of_playing (playing : e.mode = .playing item session) :
    e.mode.reported ≠ .stopped := by
  rw [playing]
  nofun

theorem active_of_paused (paused : e.mode = .paused item session) :
    e.mode.reported ≠ .stopped := by
  rw [paused]
  nofun

theorem active_of_session (live : e.mode.session? = some session) :
    e.mode.reported ≠ .stopped := by
  cases mode : e.mode with
  | idle | preparing => simp [mode, Mode.session?] at live
  | playing | paused => simp [Mode.reported]

theorem Rests.navigated (e : Engine) (ahead : Bool) : e.Rests (e.navigated ahead) := by
  unfold Engine.navigated
  dsimp only
  split
  · exact id
  · split
    · exact (startRequest_reported _ true none).mpr
    · exact fun _ => rfl

theorem Pauses.rests (pauses : e.Pauses e') : e.Rests e' := by
  cases pauses with
  | paused playing | failed playing => exact .of_active (active_of_playing playing) _
  | held preparing => exact .awaiting preparing (PrepareRequest.hold_reported _) _ rfl
  | kept => exact id

theorem Plays.rests (plays : e.Plays e') : e.Rests e' := by
  cases plays with
  | resumed paused => exact .of_active (active_of_paused paused) _
  | awaited preparing => exact .awaiting preparing (PrepareRequest.resume_reported _) _ rfl
  | started => exact .started _ true none
  | nothing | playing => exact id

/-- A stopped engine stays stopped until a session that it awaits was prepared. -/
theorem Handles.rests {m : Message} (handles : e.Handles m e')
    (unprepared : ∀ id item prepared active request, m = .prepared id item (.ok prepared) →
      e.mode = .preparing active request → request.id ≠ id) : e.Rests e' := by
  cases handles with
  | play plays | togglePlay _ plays => exact plays.rests
  | pause pauses | togglePause _ pauses => exact pauses.rests
  | lostPlaying playing | lostTransientPlaying playing =>
    exact .of_active (active_of_playing playing) _
  | reselected paused | gainedPaused _ paused => exact .of_active (active_of_paused paused) _
  | replayed live | recreated live | finished live | advanced live =>
    exact .of_active (active_of_session live) _
  | @playItemInside _ index =>
    obtain ⟨cursor, pointed⟩ := e.exists_pointed index
    rw [pointed]
    exact (startRequest_reported _ true none).mpr
  | playItemOutside => exact (startRequest_reported _ true none).mpr
  | @chosen item playlist words =>
    obtain ⟨cursor, pointed⟩ := (e.withPlaylist playlist words).exists_pointedAt item
    rw [pointed]
    exact (startRequest_reported _ true none).mpr
  | indexStarted => exact (startRequest_reported _ _ none).mpr
  | seekStarted => exact .started _ false _
  | forward => exact .navigated e true
  | backward => exact .navigated e false
  | seekAwaited preparing =>
    intro stopped
    rw [preparing] at stopped
    exact stopped
  | reselectedAwaited preparing =>
    exact .awaiting preparing (PrepareRequest.resume_reported _) _ rfl
  | setPlaylistAround =>
    unfold Rests
    rw [pointed_mode]
    exact id
  | preparedHeld preparing current | preparedBegun preparing current =>
    exact absurd current (unprepared _ _ _ _ _ rfl preparing)
  | reset | setPlaylistWithout | preparedFailed => exact fun _ => rfl
  | seekLive | seekNothing | setRepeatMode | setShuffle | reselectedPlaying | notChosen
  | setPlaylist | indexOutside | indexOnly | snapshot | progress | preparedLate | outputStale
  | outputFailed | lost | lostTransient | gained | background | foreground | tick | shutdown =>
    exact id

end Engine

namespace Core

variable {σ L : Type} [Surroundings σ L] {c : Core σ L}

/-- In an action the engine learns that the session that it awaits was prepared. -/
def LearnsOfSession (c : Core σ L) (action : Action σ L) : Prop :=
  action = .take ∧ ∃ request item prepared,
    c.next? = some (.prepared request item (.ok prepared)) ∧ c.Awaits request

theorem Sound.act_rests (sound : c.Sound) (action : Action σ L)
    (unprepared : ¬ c.LearnsOfSession action) :
    c.world.engine.Rests (c.act action).world.engine := by
  rcases act_engine sound.settled action with
    ⟨_, same⟩ | ⟨m, e', shown, rfl, next, handles, turned⟩ | ⟨shown, ended⟩
  · rw [same]
    exact id
  · rw [turned]
    refine handles.rests ?_
    rintro id item prepared active request rfl preparing rfl
    exact unprepared ⟨rfl, _, item, prepared, next, active, by rw [preparing]; rfl⟩
  · rw [ended]
    exact fun _ => rfl

theorem Sound.act_quits (sound : c.Sound) (action : Action σ L) :
    c.world.engine.Quits (c.act action).world.engine := by
  rcases act_engine sound.settled action with
    ⟨_, same⟩ | ⟨m, e', shown, _, _, handles, turned⟩ | ⟨shown, ended⟩
  · rw [same]
    exact .of_reported id
  · rw [turned]
    exact handles.quits
  · rw [ended]
    exact .of_idle rfl

/-- In every state of a run a request that is awaited reports what it leads to. -/
theorem candid_after (blank : c.Blank) (interval : Duration) (actions : List (Action σ L)) :
    ((c.launch interval).after actions).world.engine.mode.Candid := by
  refine (Sound.launch blank interval).engine_after (P := fun e => e.mode.Candid) ?_
    (fun _ _ candid handles => handles.candid candid) (fun _ candid => candid)
    (fun _ => trivial) actions
  rw [(launch_world blank interval).1]
  trivial

/-- In every state of a run the state that others see is the engine's own, and a request that is
awaited reports what it leads to unless it reports that playback is stopped. Whatever happens next, a
stopped engine stays stopped unless it learns that the session that it awaits was prepared, and an
engine that is not stopped becomes so only by becoming idle. -/
theorem reported_without_glitch (blank : c.Blank) (interval : Duration)
    (actions : List (Action σ L)) :
    let s := (c.launch interval).after actions
    s.world.engine.lastState = s.world.engine.mode.reported ∧
    (∀ item request, s.world.engine.mode = .preparing item request → request.reported ≠ .stopped →
      (request.reported = .playing ↔ request.autoplay = true) ∧
      (request.reported = .paused ↔ request.autoplay = false)) ∧
    ∀ action,
      (s.world.engine.mode.reported = .stopped → ¬ s.LearnsOfSession action →
        (s.act action).world.engine.mode.reported = .stopped) ∧
      (s.world.engine.mode.reported ≠ .stopped → (s.act action).world.engine.mode ≠ .idle →
        (s.act action).world.engine.mode.reported ≠ .stopped) := by
  intro s
  have sound : s.Sound := (Sound.launch blank interval).after actions
  have candid : s.world.engine.mode.Candid := candid_after blank interval actions
  refine ⟨sound.announced.state, ?_, fun action => ⟨?_, ?_⟩⟩
  · intro item request preparing active
    rw [preparing] at candid
    exact candid.reported_iff active
  · exact fun stopped unprepared => sound.act_rests action unprepared stopped
  · exact fun active busy stopped => busy (sound.act_quits action active stopped)

/-- A song plays, the encore is chosen to take its place, and then a pause is asked for. -/
def reconsidered : List (Action Obliging Empty) :=
  [.command (.choose .song), .take, .ask, .answer 1 (.ok ⟨⟨1⟩, none⟩), .take,
    .command (.choose .encore), .take, .command .pause, .take]

/-- Others know that the encore is going to be paused, and whatever happens next, they see playback
stopped only if nothing is active any more. -/
theorem reported_without_glitch_reconsidered :
    let s := (obliged.launch .zero).after reconsidered
    s.world.engine.lastState = .paused ∧ s.world.engine.mode.wantsPlayback = false ∧
    ∀ action, (s.act action).world.engine.mode ≠ .idle →
      (s.act action).world.engine.mode.reported ≠ .stopped := by
  have mode : ((obliged.launch .zero).after reconsidered).world.engine.mode =
      .preparing .encore ⟨2, false, none, .paused⟩ := by decide +kernel
  obtain ⟨known, candid, steady⟩ := reported_without_glitch obliged_blank .zero reconsidered
  have held := (candid _ _ mode nofun).2.mp rfl
  rw [mode] at known
  refine ⟨known, ?_, fun action => (steady action).2 ?_⟩
  · rw [mode]
    exact held
  · rw [mode]
    nofun

end Core
end MediaPlayback
