import MediaPlayback.Proofs.Engine.Outcome

/-! The engine's mode and what it holds of the host agree: the live session is the one that the mode
names, and a request that is awaited is the last one that was numbered. -/

namespace MediaPlayback
namespace Engine

/-- The live session is the one that the mode names, and the request that is awaited is the last
one. -/
structure Coherent (e : Engine) : Prop where
  live : e.live = e.mode.session?
  latest : ∀ item request, e.mode = .preparing item request → request.id = e.lastRequest

variable {e e' : Engine} {item : Item} {session : SessionId}

theorem Coherent.stopped (e : Engine) : e.stopped.Coherent := ⟨rfl, nofun⟩

theorem Coherent.cleared (e : Engine) : e.cleared.Coherent := ⟨rfl, nofun⟩

theorem Coherent.started (e : Engine) (item : Item) (autoplay : Bool) (seekTo : Option Duration) :
    (e.started item autoplay seekTo).Coherent := by
  refine ⟨rfl, ?_⟩
  rintro _ _ ⟨⟩
  exact e.startRequest_id autoplay seekTo

theorem Coherent.withPlaylist (coherent : e.Coherent) (playlist : Playlist) (words : Entropy) :
    (e.withPlaylist playlist words).Coherent :=
  ⟨coherent.live, coherent.latest⟩

theorem Coherent.pointed (coherent : e.Coherent) (index : Nat) : (e.pointed index).Coherent := by
  unfold Engine.pointed
  split
  · exact ⟨coherent.live, coherent.latest⟩
  · exact coherent

theorem Coherent.navigated (coherent : e.Coherent) (ahead : Bool) :
    (e.navigated ahead).Coherent := by
  unfold Engine.navigated
  dsimp only
  split
  · exact ⟨coherent.live, coherent.latest⟩
  · split
    · exact .started _ _ true none
    · exact .cleared _

theorem Coherent.pointedAt (coherent : e.Coherent) (item : Item) :
    (e.pointedAt item).Coherent := by
  unfold Engine.pointedAt
  split
  · exact coherent.pointed _
  · exact coherent

/-- An item that is awaited may be asked to start in another way. -/
theorem Coherent.awaiting (coherent : e.Coherent) {request request' : PrepareRequest}
    (preparing : e.mode = .preparing item request) (same : request'.id = request.id) :
    { e with mode := .preparing item request' }.Coherent := by
  obtain ⟨live, latest⟩ := coherent
  rw [preparing] at live
  refine ⟨live, ?_⟩
  rintro _ _ ⟨⟩
  exact same.trans (latest item request preparing)

theorem Begins.coherent (begins : e.Begins item session e') (live : e.live = some session) :
    e'.Coherent := by
  cases begins with
  | denied => exact ⟨rfl, nofun⟩
  | played => exact ⟨live, nofun⟩
  | failed => exact .stopped e

theorem Resumes.coherent (resumes : e.Resumes item session e') (live : e.live = some session) :
    e'.Coherent := by
  cases resumes with
  | denied => exact ⟨live, nofun⟩
  | played => exact ⟨live, nofun⟩
  | failed => exact .stopped e

theorem Pauses.coherent (pauses : e.Pauses e') (coherent : e.Coherent) : e'.Coherent := by
  cases pauses with
  | paused playing =>
    have live : e.live = _ := coherent.live.trans (congrArg Mode.session? playing)
    exact ⟨live, nofun⟩
  | failed => exact .stopped e
  | held preparing => exact coherent.awaiting preparing rfl
  | kept => exact coherent

theorem Plays.coherent (plays : e.Plays e') (coherent : e.Coherent) : e'.Coherent := by
  cases plays with
  | resumed paused resumes =>
    exact resumes.coherent (coherent.live.trans (congrArg Mode.session? paused))
  | awaited preparing =>
    have unpaused : { e with focusPaused := false }.Coherent := ⟨coherent.live, coherent.latest⟩
    exact unpaused.awaiting preparing rfl
  | started => exact .started e _ true none
  | nothing => exact ⟨coherent.live, coherent.latest⟩
  | playing => exact ⟨coherent.live, coherent.latest⟩

/-- Every message leaves a coherent engine coherent. -/
theorem Handles.coherent {m : Message} (handles : e.Handles m e') (coherent : e.Coherent) :
    e'.Coherent := by
  have unpaused : { e with focusPaused := false }.Coherent := ⟨coherent.live, coherent.latest⟩
  cases handles with
  | play plays => exact plays.coherent coherent
  | playItemInside => exact .started _ _ true none
  | playItemOutside => exact .started _ _ true none
  | pause pauses => exact pauses.coherent unpaused
  | togglePause _ pauses => exact pauses.coherent unpaused
  | togglePlay _ plays => exact plays.coherent coherent
  | forward => exact coherent.navigated true
  | backward => exact coherent.navigated false
  | reset => exact .cleared e
  | seekLive => exact coherent
  | seekAwaited preparing => exact coherent.awaiting preparing rfl
  | seekStarted => exact .started e _ false _
  | seekNothing => exact coherent
  | setRepeatMode => exact ⟨coherent.live, coherent.latest⟩
  | setShuffle => exact ⟨coherent.live, coherent.latest⟩
  | reselected paused _ resumes =>
    exact resumes.coherent (coherent.live.trans (congrArg Mode.session? paused))
  | reselectedAwaited preparing => exact coherent.awaiting preparing rfl
  | reselectedPlaying => exact coherent
  | chosen => exact .started _ _ true none
  | notChosen => exact coherent
  | setPlaylist words => exact coherent.withPlaylist _ words
  | setPlaylistAround words => exact (coherent.withPlaylist _ words).pointed _
  | setPlaylistWithout => exact .stopped _
  | indexOutside => exact coherent
  | indexOnly => exact ⟨coherent.live, coherent.latest⟩
  | indexStarted => exact .started _ _ _ none
  | snapshot => exact coherent
  | progress => exact coherent
  | preparedLate => exact coherent
  | preparedFailed => exact .stopped e
  | preparedHeld => exact ⟨rfl, nofun⟩
  | preparedBegun _ _ _ begins => exact begins.coherent rfl
  | outputStale => exact coherent
  | outputFailed => exact coherent
  | replayed live => exact ⟨coherent.live.trans live, nofun⟩
  | recreated => exact .started e _ true none
  | advanced => exact coherent.navigated true
  | finished => exact .cleared e
  | lostPlaying _ pauses =>
    have paused := pauses.coherent unpaused
    exact ⟨paused.live, paused.latest⟩
  | lost => exact ⟨coherent.live, coherent.latest⟩
  | lostTransientPlaying _ pauses =>
    have paused := pauses.coherent coherent
    exact ⟨paused.live, paused.latest⟩
  | lostTransient => exact coherent
  | gainedPaused _ paused resumes =>
    exact resumes.coherent (coherent.live.trans (congrArg Mode.session? paused))
  | gained => exact unpaused
  | background => exact ⟨coherent.live, coherent.latest⟩
  | foreground => exact ⟨coherent.live, coherent.latest⟩
  | tick => exact coherent
  | shutdown => exact coherent

theorem Coherent.published (coherent : e.Coherent) (shown : Bool) : (e.published shown).Coherent :=
  ⟨coherent.live, coherent.latest⟩

end Engine

theorem World.turn_coherent {σ L : Type} [Surroundings σ L] (w : World σ L) (m : Message)
    (coherent : w.engine.Coherent) : (w.turn m).engine.Coherent := by
  obtain ⟨e, shown, handles, turned⟩ := w.turn_engine m
  rw [turned]
  exact (handles.coherent coherent).published shown

end MediaPlayback
