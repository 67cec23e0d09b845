import MediaPlayback.Proofs.Invariant

/-! An engine that reports to be stopped holds nothing that others wait for: no session is live and
audio focus is not held. An item that is being prepared reports what went before it, so the engine
may be stopped although it awaits an answer. -/

namespace MediaPlayback

@[simp] theorem PrepareRequest.resume_reported (r : PrepareRequest) :
    r.resume.reported = .stopped ↔ r.reported = .stopped := by
  unfold resume
  cases r.reported <;> simp

@[simp] theorem PrepareRequest.hold_reported (r : PrepareRequest) :
    r.hold.reported = .stopped ↔ r.reported = .stopped := by
  unfold hold
  cases r.reported <;> simp

namespace Engine

/-- A new request reports to be stopped only if that was reported before. -/
@[simp] theorem startRequest_reported (e : Engine) (autoplay : Bool) (seekTo : Option Duration) :
    (e.startRequest autoplay seekTo).reported = .stopped ↔ e.mode.reported = .stopped := by
  unfold startRequest
  dsimp only
  split
  · rfl
  · split <;> simp

/-- Audio focus is not held while the engine reports to be stopped. -/
def Yields (e : Engine) : Prop := e.mode.reported = .stopped → e.hasFocus = false

variable {e e' : Engine} {item : Item} {session : SessionId}

theorem Yields.of_unfocused (unfocused : e.hasFocus = false) : e.Yields := fun _ => unfocused

theorem Yields.of_active (active : e.mode.reported ≠ .stopped) : e.Yields :=
  fun stopped => absurd stopped active

theorem Yields.stopped (e : Engine) : e.stopped.Yields := .of_unfocused rfl

theorem Yields.cleared (e : Engine) : e.cleared.Yields := .of_unfocused rfl

/-- As long as focus stays, the engine must not begin to report that it is stopped. -/
theorem Yields.keeps (yields : e.Yields) (focus : e'.hasFocus = e.hasFocus)
    (reported : e'.mode.reported = .stopped → e.mode.reported = .stopped) : e'.Yields :=
  fun stopped => focus.trans (yields (reported stopped))

theorem Yields.started (yields : e.Yields) (item : Item) (autoplay : Bool)
    (seekTo : Option Duration) : (e.started item autoplay seekTo).Yields :=
  yields.keeps rfl (e.startRequest_reported autoplay seekTo).mp

/-- A request that is awaited may be changed, as long as it reports the same. -/
theorem Yields.awaiting (yields : e.Yields) {request request' : PrepareRequest}
    (preparing : e.mode = .preparing item request)
    (same : request'.reported = .stopped ↔ request.reported = .stopped) :
    { e with mode := .preparing item request' }.Yields := by
  refine yields.keeps rfl fun stopped => ?_
  rw [preparing]
  exact same.mp stopped

theorem Yields.withPlaylist (yields : e.Yields) (playlist : Playlist) (words : Entropy) :
    (e.withPlaylist playlist words).Yields := yields.keeps rfl id

theorem Yields.pointed (yields : e.Yields) (index : Nat) : (e.pointed index).Yields := by
  unfold Engine.pointed
  split
  · exact yields.keeps rfl id
  · exact yields

theorem Yields.pointedAt (yields : e.Yields) (item : Item) : (e.pointedAt item).Yields := by
  unfold Engine.pointedAt
  split
  · exact yields.pointed _
  · exact yields

theorem Yields.navigated (yields : e.Yields) (ahead : Bool) : (e.navigated ahead).Yields := by
  unfold Engine.navigated
  dsimp only
  split
  · exact yields.keeps rfl id
  · split
    · exact Yields.started (yields.keeps rfl id) _ true none
    · exact .cleared _

theorem Begins.yields (begins : e.Begins item session e') : e'.Yields := by
  cases begins with
  | denied unfocused => exact .of_unfocused unfocused
  | played => exact .of_active nofun
  | failed => exact .stopped e

theorem Resumes.yields (resumes : e.Resumes item session e') : e'.Yields := by
  cases resumes with
  | denied => exact .of_active nofun
  | played => exact .of_active nofun
  | failed => exact .stopped e

theorem Pauses.yields (pauses : e.Pauses e') (yields : e.Yields) : e'.Yields := by
  cases pauses with
  | paused => exact .of_active nofun
  | failed => exact .stopped e
  | held preparing => exact yields.awaiting preparing (PrepareRequest.hold_reported _)
  | kept => exact yields

theorem Plays.yields (plays : e.Plays e') (yields : e.Yields) : e'.Yields := by
  cases plays with
  | resumed _ resumes => exact resumes.yields
  | awaited preparing =>
    have unpaused : { e with focusPaused := false }.Yields := yields.keeps rfl id
    exact unpaused.awaiting preparing (PrepareRequest.resume_reported _)
  | started => exact yields.started _ true none
  | nothing => exact yields.keeps rfl id
  | playing => exact yields.keeps rfl id

/-- Whatever an engine handles, it holds no focus if it reports to be stopped afterwards. -/
theorem Handles.yields {m : Message} (handles : e.Handles m e') (yields : e.Yields) :
    e'.Yields := by
  have unpaused : { e with focusPaused := false }.Yields := yields.keeps rfl id
  cases handles with
  | play plays | togglePlay _ plays => exact plays.yields yields
  | pause pauses | togglePause _ pauses => exact pauses.yields unpaused
  | playItemInside => exact (yields.pointed _).started _ true none
  | playItemOutside => exact (yields.withPlaylist _ _).started _ true none
  | chosen => exact ((yields.withPlaylist _ _).pointedAt _).started _ true none
  | forward | advanced => exact yields.navigated true
  | backward => exact yields.navigated false
  | seekStarted | recreated => exact yields.started _ _ _
  | indexStarted => exact Yields.started (yields.keeps rfl id) _ _ none
  | seekAwaited preparing => exact yields.awaiting preparing .rfl
  | reselectedAwaited preparing =>
    exact yields.awaiting preparing (PrepareRequest.resume_reported _)
  | reselected _ _ resumes | gainedPaused _ _ resumes => exact resumes.yields
  | setPlaylistAround => exact (yields.withPlaylist _ _).pointed _
  -- The item was being prepared; from here on the engine is no longer stopped, or it has no focus.
  | preparedHeld => exact .of_active nofun
  | preparedBegun _ _ _ begins => exact begins.yields
  | replayed => exact .of_active nofun
  | lostPlaying | lost => exact .of_unfocused rfl
  | lostTransientPlaying _ pauses => exact (pauses.yields yields).keeps rfl id
  | reset | finished => exact .cleared e
  | setPlaylistWithout => exact .of_unfocused rfl
  | preparedFailed => exact .stopped e
  | seekLive | seekNothing | setRepeatMode | setShuffle | reselectedPlaying | notChosen
  | setPlaylist | indexOutside | indexOnly | snapshot | progress | preparedLate | outputStale
  | outputFailed | lostTransient | gained | background | foreground | tick | shutdown =>
    exact yields.keeps rfl id

/-- A stopped engine has no session. -/
theorem Coherent.no_session (coherent : e.Coherent) (stopped : e.mode.reported = .stopped) :
    e.live = none := by
  rw [coherent.live]
  cases mode : e.mode with
  | idle | preparing => rfl
  | playing | paused => simp [mode, Mode.reported] at stopped

end Engine

/-- The trace knows of no live session but this one. It may know of none although there is one: a
host that returns the live session a second time makes it be unloaded behind the engine's back. -/
def Effect.LiveOnly {L : Type} (live : Option SessionId) (trace : List (Effect L)) : Prop :=
  ∀ session, liveIn trace = some session → live = some session

namespace Holding

variable {L : Type} {h h' : Holding} {effect : Effect L} {trace : List (Effect L)}

/-- An unload takes a session away and brings none. -/
theorem liveOnly_unload {session : SessionId} {result : (HostCall.unload session).Result}
    {live : Option SessionId} (only : Effect.LiveOnly live trace) :
    Effect.LiveOnly live (.called (.unload session) result :: trace) ∧
    (live = some session → Effect.LiveOnly none (.called (.unload session) result :: trace)) := by
  refine ⟨fun other lives => ?_, fun same other lives => ?_⟩ <;> rw [Effect.liveIn] at lives <;>
    split at lives
  case refine_1.isFalse => exact only other lives
  case refine_2.isFalse differs =>
    cases same.symm.trans (only other lives)
    exact absurd lives differs
  all_goals contradiction

theorem Takes.liveOnly (takes : h.Takes effect h') (only : Effect.LiveOnly h.live trace) :
    Effect.LiveOnly h'.live (effect :: trace) := by
  cases takes with
  | aside aside =>
    rw [Effect.LiveOnly, Effect.liveIn_aside aside]
    exact only
  | @used call result session uses =>
    cases call with
    | play | pause | seek | position => exact only
    | _ => contradiction
  | adopted => exact fun _ => id
  | unloaded live => exact (liveOnly_unload only).2 live
  | discarded => exact (liveOnly_unload only).1
  | granted | refused | abandoned | started => exact only

theorem Comes.liveOnly {effects : List (Effect L)} (comes : h.Comes effects h')
    (only : Effect.LiveOnly h.live trace) : Effect.LiveOnly h'.live (effects ++ trace) := by
  induction comes with
  | refl => exact only
  | step _ takes ih => exact takes.liveOnly ih
  | forgets _ ih => exact ih

end Holding

namespace Core

variable {σ L : Type} [Surroundings σ L] {c : Core σ L}

/-- The trace knows of no live session but the engine's. -/
theorem Sound.act_liveOnly (sound : c.Sound) (action : Action σ L)
    (only : Effect.LiveOnly c.world.engine.live c.world.trace) :
    Effect.LiveOnly (c.act action).world.engine.live (c.act action).world.trace := by
  have leads : ∀ hand hand' w, World.Leads hand c.world hand' w →
      Effect.LiveOnly w.engine.live w.trace := by
    rintro _ _ w ⟨effects, trace, _, comes⟩
    rw [trace]
    exact comes.liveOnly only
  have moves := act_moves sound.settled action
  generalize c.act action = c' at moves ⊢
  cases moves with
  | stays _ _ stays =>
    exact leads none none _ (.mutters stays.mutters (congrArg (·.holding none) stays.engine))
  | @turns m =>
    obtain ⟨_, _, turned⟩ := c.world.turn_leads m sound.coherent
    exact leads _ _ (c.world.turn m) turned
  | ends _ _ _ _ _ _ _ ended => exact leads _ _ _ ended
  | delivers => exact only
  | lapses => exact only
  | refuses => exact (Holding.liveOnly_unload only).1

theorem launch_liveOnly (blank : c.Blank) (interval : Duration) :
    Effect.LiveOnly (c.launch interval).world.engine.live (c.launch interval).world.trace := by
  obtain ⟨_, _, ⟨effects, trace, asides⟩, _⟩ := launch_world blank interval
  rw [trace]
  exact (Holding.Comes.asides ((c.launch interval).world.engine.holding none) asides).liveOnly nofun

theorem Sound.after_liveOnly (sound : c.Sound) (actions : List (Action σ L))
    (only : Effect.LiveOnly c.world.engine.live c.world.trace) :
    Effect.LiveOnly (c.after actions).world.engine.live (c.after actions).world.trace := by
  induction actions generalizing c with
  | nil => exact only
  | cons action rest ih => exact ih (sound.act action) (sound.act_liveOnly action only)

/-- Whenever the engine reports to be stopped, it has neither a session nor focus, and it has left
no session with the host and no focus. -/
theorem stopped_holds_nothing (blank : c.Blank) (interval : Duration)
    (actions : List (Action σ L)) :
    let s := (c.launch interval).after actions
    s.world.engine.mode.reported = .stopped →
      s.world.engine.live = none ∧ s.world.engine.hasFocus = false ∧
      Effect.liveIn s.world.trace = none ∧ Effect.focusIn s.world.trace = false := by
  intro s stopped
  have launched := Sound.launch blank interval
  have sound := launched.after actions
  have yields : s.world.engine.Yields := by
    refine launched.engine_after ?_ (fun _ _ yields handles => handles.yields yields)
      (fun _ yields => yields.keeps rfl id) (fun e => .cleared e) actions
    rw [(launch_world blank interval).1]
    exact .of_unfocused rfl
  have free := sound.coherent.no_session stopped
  have unfocused := yields stopped
  refine ⟨free, unfocused, ?_, sound.accounts.focused.trans unfocused⟩
  apply Option.eq_none_iff_forall_ne_some.mpr
  intro session lives
  have live := launched.after_liveOnly actions (launch_liveOnly blank interval) session lives
  cases free.symm.trans live

/-- The encore of `overtaken` plays, all is reset, and then the song is prepared to be played. -/
def restarted : List (Action Obliging Empty) :=
  overtaken ++ [.take, .take, .command ⟨.reset, rfl⟩, .take, .command (.choose .song), .take]

/-- While the song is prepared, nothing is left of what the encore had. -/
theorem stopped_holds_nothing_restarted :
    let s := (obliged.launch .zero).after restarted
    s.world.engine.mode.item? = some .song ∧ s.world.engine.mode.reported = .stopped ∧
    s.world.engine.live = none ∧ s.world.engine.hasFocus = false ∧
    Effect.liveIn s.world.trace = none ∧ Effect.focusIn s.world.trace = false :=
  ⟨by rfl, by rfl, stopped_holds_nothing obliged_blank .zero restarted (by rfl)⟩

end Core
end MediaPlayback
