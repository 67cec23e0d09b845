import MediaPlayback.Proofs.Invariant

/-! Playing and audio focus. What the engine holds of focus is what the trace says, and an engine
that plays holds it, with one exception: a paused session that was completed is played again under
the repeat mode of one item, and this does not ask for focus that was lost. -/

namespace MediaPlayback

namespace Engine

/-- An engine that plays holds audio focus. -/
def Focused (e : Engine) : Prop :=
  ∀ item session, e.mode = .playing item session → e.hasFocus = true

/-- A message makes an engine play a paused session again although focus is not held. -/
def AwaitsReplay (e : Engine) (m : Message) : Prop :=
  ∃ item session, m = .output (.completed session) ∧ e.mode = .paused item session ∧
    e.cursor.repeatMode = .item ∧ e.hasFocus = false

variable {e e' : Engine} {item : Item} {session : SessionId}

theorem Focused.of_idle (idle : e.mode = .idle) : e.Focused := by
  intro item session playing
  rw [idle] at playing
  contradiction

theorem Focused.of_preparing {request : PrepareRequest}
    (awaits : e.mode = .preparing item request) : e.Focused := by
  intro _ _ playing
  rw [awaits] at playing
  contradiction

theorem Focused.of_paused (paused : e.mode = .paused item session) : e.Focused := by
  intro _ _ playing
  rw [paused] at playing
  contradiction

theorem Focused.started (e : Engine) (item : Item) (autoplay : Bool) (seekTo : Option Duration) :
    (e.started item autoplay seekTo).Focused := .of_preparing rfl

theorem Focused.pointed (focused : e.Focused) (index : Nat) : (e.pointed index).Focused := by
  unfold Engine.pointed
  split
  · exact focused
  · exact focused

theorem Focused.navigated (focused : e.Focused) (ahead : Bool) : (e.navigated ahead).Focused := by
  unfold Engine.navigated
  dsimp only
  split
  · exact focused
  · split
    · exact .started _ _ true none
    · exact .of_idle rfl

theorem Begins.focused (begins : e.Begins item session e') : e'.Focused := by
  cases begins with
  | denied => exact .of_idle rfl
  | played => exact fun _ _ _ => rfl
  | failed => exact .of_idle rfl

theorem Resumes.focused (resumes : e.Resumes item session e') : e'.Focused := by
  cases resumes with
  | denied => exact .of_paused rfl
  | played => exact fun _ _ _ => rfl
  | failed => exact .of_idle rfl

/-- A pause leaves nothing that plays. -/
theorem Pauses.silent (pauses : e.Pauses e') (item : Item) (session : SessionId) :
    e'.mode ≠ .playing item session := by
  cases pauses with
  | paused => exact Mode.noConfusion
  | failed => exact Mode.noConfusion
  | held => exact Mode.noConfusion
  | kept playing => exact playing item session

theorem Pauses.focused (pauses : e.Pauses e') : e'.Focused :=
  fun item session playing => absurd playing (pauses.silent item session)

theorem Plays.focused (plays : e.Plays e') (focused : e.Focused) : e'.Focused := by
  cases plays with
  | resumed _ resumes => exact resumes.focused
  | awaited => exact .of_preparing rfl
  | started => exact .started e _ true none
  | nothing => exact focused
  | playing => exact focused

/-- Whatever an engine handles, it plays with focus afterwards, unless it plays a session again
without it. -/
theorem Handles.focused {m : Message} (handles : e.Handles m e') (focused : e.Focused) :
    e'.Focused ∨ e.AwaitsReplay m := by
  cases handles with
  -- The only case in which playing begins and focus is not asked for.
  | replayed live active again =>
    cases mode : e.mode with
    | idle => simp [mode, Mode.session?] at live
    | preparing => simp [mode, Mode.session?] at live
    | playing item session => exact .inl fun _ _ _ => focused item session mode
    | paused item session =>
      obtain rfl : session = _ := Option.some.inj (by rw [← live, mode]; rfl)
      cases held : e.hasFocus with
      | true => exact .inl fun _ _ _ => rfl
      | false => exact .inr ⟨item, session, rfl, mode, again, held⟩
  | play plays => exact .inl (plays.focused focused)
  | togglePlay _ plays => exact .inl (plays.focused focused)
  | pause pauses => exact .inl pauses.focused
  | togglePause _ pauses => exact .inl pauses.focused
  | forward => exact .inl (focused.navigated true)
  | backward => exact .inl (focused.navigated false)
  | advanced => exact .inl (focused.navigated true)
  | reselected _ _ resumes => exact .inl resumes.focused
  | gainedPaused _ _ resumes => exact .inl resumes.focused
  | preparedBegun _ _ _ begins => exact .inl begins.focused
  | @setPlaylistAround playlist _ _ words =>
    have replaced : (e.withPlaylist playlist words).Focused := focused
    exact .inl (replaced.pointed _)
  | lostPlaying _ pauses =>
    exact .inl fun item session playing => absurd playing (pauses.silent item session)
  | lost silent => exact .inl fun item session playing => absurd playing (silent item session)
  | lostTransientPlaying _ pauses =>
    exact .inl fun item session playing => absurd playing (pauses.silent item session)
  | preparedHeld => exact .inl (.of_paused rfl)
  | playItemInside | playItemOutside | seekAwaited | seekStarted | reselectedAwaited | chosen
  | indexStarted | recreated => exact .inl (.of_preparing rfl)
  | reset | setPlaylistWithout | preparedFailed | finished => exact .inl (.of_idle rfl)
  | seekLive | seekNothing | setRepeatMode | setShuffle | reselectedPlaying | notChosen
  | setPlaylist | indexOutside | indexOnly | snapshot | progress | preparedLate | outputStale
  | outputFailed | lostTransient | gained | background | foreground | tick | shutdown =>
    exact .inl focused

theorem Focused.published (focused : e.Focused) (shown : Bool) : (e.published shown).Focused :=
  focused

end Engine

namespace World

variable {σ L : Type} [Surroundings σ L]

/-- Whether the host would play a session again from its start. -/
def canReplay (w : World σ L) (session : SessionId) : Bool := (w.replay session).1 matches .ok _

/-- What the host answers does not depend on the log. -/
theorem canReplay_log (w : World σ L) (source : LogSource) (level : LogLevel) (message : String)
    (fields : List (String × String)) (session : SessionId) :
    (w.log source level message fields).canReplay session = w.canReplay session := by
  unfold canReplay replay seekSession call
  dsimp only
  rw [show (w.log source level message fields).outside = w.outside from rfl]
  rcases Surroundings.answer L w.outside (.seek session .zero) with ⟨_ | _, outside⟩
  · rfl
  · rfl

/-- A completed session under the repeat mode of one item plays again if the host plays it, and else
its item is prepared anew. -/
theorem onCompleted_again (w : World σ L) (item : Item) (session : SessionId)
    (again : w.engine.cursor.repeatMode = .item) :
    (w.canReplay session ∧
      (w.onCompleted item session).engine = { w.engine with mode := .playing item session }) ∨
    w.canReplay session = false ∧
      (w.onCompleted item session).engine = w.engine.started item true none := by
  let logged := w.log .engine .debug "Playback completed" [("file", item.fileName)]
  have same : (logged.replay session).2.engine = w.engine := logged.replay_engine session
  rw [← w.canReplay_log .engine .debug "Playback completed" [("file", item.fileName)], canReplay]
  unfold onCompleted
  dsimp only
  rw [log_engine, if_pos again]
  rcases h : logged.replay session with ⟨_ | _, w'⟩
  · have same : w'.engine = w.engine := by rw [h] at same; exact same
    refine .inr ⟨rfl, ?_⟩
    simp only [start_engine, log_engine, same]
  · have same : w'.engine = w.engine := by rw [h] at same; exact same
    refine .inl ⟨rfl, ?_⟩
    simp only [setMode_engine, same]

theorem turn_of_completed (w : World σ L) {item : Item} {session : SessionId}
    (paused : w.engine.mode = .paused item session) (again : w.engine.cursor.repeatMode = .item) :
    (w.canReplay session ∧
      (w.turn (.output (.completed session))).engine.mode = .playing item session ∧
      (w.turn (.output (.completed session))).engine.hasFocus = w.engine.hasFocus) ∨
    w.canReplay session = false ∧ (w.turn (.output (.completed session))).engine.Focused := by
  let logged := w.log .engine .trace "Engine command"
    [("command", (Message.output (.completed session)).name)]
  have completed : logged.onOutput (.completed session) = logged.onCompleted item session := by
    have paused : logged.engine.mode = .paused item session := paused
    unfold onOutput
    rw [paused]
    exact if_pos rfl
  obtain ⟨shown, publishes⟩ := (logged.onCompleted item session).publish_engine
  rw [← completed] at publishes
  have turned : (w.turn (.output (.completed session))).engine = _ := publishes
  rw [turned, completed, ← w.canReplay_log .engine .trace "Engine command"
    [("command", (Message.output (.completed session)).name)]]
  rcases logged.onCompleted_again item session again with ⟨can, plays⟩ | ⟨cannot, starts⟩
  · rw [plays]
    exact .inl ⟨can, rfl, rfl⟩
  · rw [starts]
    exact .inr ⟨cannot, (Engine.Focused.started w.engine item true none).published shown⟩

end World

namespace Core

variable {σ L : Type} [Surroundings σ L] {c : Core σ L}

/-- In an action the engine plays a paused session again although focus is not held. -/
def ReplaysUnfocused (c : Core σ L) (action : Action σ L) : Prop :=
  action = .take ∧ ∃ item session, c.next? = some (.output (.completed session)) ∧
    c.world.engine.mode = .paused item session ∧ c.world.engine.cursor.repeatMode = .item ∧
    c.world.engine.hasFocus = false ∧ c.world.canReplay session

/-- An action leaves an engine without focus playing exactly if it is such a replay. -/
theorem Sound.focused_act (sound : c.Sound) (focused : c.world.engine.Focused)
    (action : Action σ L) :
    (c.act action).world.engine.Focused ↔ ¬ c.ReplaysUnfocused action := by
  have moves := act_moves sound.settled action
  constructor
  · rintro after ⟨rfl, item, session, next, paused, again, unheld, can⟩
    obtain ⟨_, _, turned⟩ := act_take next nofun
    rw [turned] at after
    rcases c.world.turn_of_completed paused again with ⟨_, playing, kept⟩ | ⟨cannot, _⟩
    · have held := after item session playing
      rw [kept, unheld] at held
      contradiction
    · rw [can] at cannot
      contradiction
  · intro never
    generalize c.act action = c' at moves
    cases moves with
    | stays _ _ stays =>
      rw [stays.engine]
      exact focused
    | @turns m rest posts running next _ _ =>
      obtain ⟨e', shown, handles, turned⟩ := c.world.turn_engine m
      rcases handles.focused focused with focused | ⟨item, session, rfl, paused, again, unheld⟩
      · rw [turned_engine, turned]
        exact focused.published shown
      · have first : c.next? = some (.output (.completed session)) := by
          simp [next?, running, next]
        rcases c.world.turn_of_completed paused again with ⟨can, _⟩ | ⟨_, focused⟩
        · exact absurd ⟨rfl, item, session, first, paused, again, unheld, can⟩ never
        · exact focused
    | ends _ _ _ _ _ _ engine =>
      rw [engine]
      exact .of_idle rfl
    | delivers => exact focused
    | lapses => exact focused
    | refuses => exact focused

theorem Sound.focused_after (sound : c.Sound) (focused : c.world.engine.Focused)
    (actions : List (Action σ L)) :
    (∀ initial, initial <+: actions → (c.after initial).world.engine.Focused) ↔
    ∀ earlier action later, actions = earlier ++ action :: later →
      ¬ (c.after earlier).ReplaysUnfocused action := by
  induction actions generalizing c with
  | nil =>
    constructor
    · intro _ earlier action later split
      simp at split
    · intro _ initial shorter
      rw [List.prefix_nil.mp shorter]
      exact focused
  | cons first rest ih =>
    -- The rest of the run starts focused exactly if its first action is no such replay.
    have step := sound.focused_act focused first
    constructor
    · intro always earlier action later split
      have now := always [first] (List.prefix_append [first] rest)
      cases earlier with
      | nil =>
        obtain ⟨rfl, _⟩ := List.cons.inj split
        exact step.mp now
      | cons _ earlier =>
        obtain ⟨rfl, tail⟩ := List.cons.inj split
        refine (ih (sound.act first) now).mp (fun initial shorter => ?_) earlier action later tail
        exact always (first :: initial) (List.cons_prefix_cons.mpr ⟨rfl, shorter⟩)
    · intro never initial shorter
      have now := step.mpr (never [] first rest rfl)
      cases initial with
      | nil => exact focused
      | cons _ initial =>
        obtain ⟨rfl, tail⟩ := List.cons_prefix_cons.mp shorter
        refine (ih (sound.act _) now).mpr (fun earlier action later split => ?_) initial tail
        exact never (_ :: earlier) action later (congrArg (List.cons _) split)

/-- The engine holds focus exactly if the trace says so, and in a run it never plays without focus
exactly if it never plays a paused session again without it. -/
theorem focused_unless_replayed (blank : c.Blank) (interval : Duration)
    (actions : List (Action σ L)) :
    let launched := c.launch interval
    Effect.focusIn (launched.after actions).world.trace =
      (launched.after actions).world.engine.hasFocus ∧
    ((∀ initial, initial <+: actions → (launched.after initial).world.engine.Focused) ↔
      ∀ earlier action later, actions = earlier ++ action :: later →
        ¬ (launched.after earlier).ReplaysUnfocused action) := by
  have sound := Sound.launch blank interval
  refine ⟨(sound.after actions).accounts.focused, sound.focused_after ?_ actions⟩
  rw [(launch_world blank interval).1]
  exact .of_idle rfl

/-- The encore of `overtaken` plays under the repeat mode of one item, focus is lost for good, which
pauses it, and then the host reports that it was completed. -/
def replayed : List (Action Obliging Empty) :=
  overtaken ++ [.take, .take, .command ⟨.setRepeatMode .item, rfl⟩, .take, .focus .lost, .take,
    .output (.completed ⟨2⟩), .take]

/-- Without focus at the end the encore plays, and so it was played again without focus. -/
theorem focused_unless_replayed_replayed :
    let launched := obliged.launch .zero
    Effect.focusIn (launched.after replayed).world.trace = false ∧
    ∃ earlier later, replayed = earlier ++ .take :: later ∧
      (launched.after earlier).ReplaysUnfocused .take := by
  obtain ⟨held, focused⟩ := focused_unless_replayed obliged_blank .zero replayed
  have unheld : ((obliged.launch .zero).after replayed).world.engine.hasFocus = false := rfl
  refine ⟨held.trans unheld, Classical.byContradiction fun never => ?_⟩
  have always := focused.mpr fun earlier action later split replays =>
    never ⟨earlier, later, by rw [split, replays.1], by rw [← replays.1]; exact replays⟩
  have held := always replayed List.prefix_rfl .encore ⟨2⟩ rfl
  exact Bool.false_ne_true (unheld.symm.trans held)

/-- An engine may play without focus. -/
theorem exists_unfocused_playing : ¬ ∀ (c : Core Obliging Empty), c.Blank →
    ∀ (interval : Duration) (actions : List (Action Obliging Empty)) (item : Item)
      (session : SessionId),
    ((c.launch interval).after actions).world.engine.mode = .playing item session →
    Effect.focusIn ((c.launch interval).after actions).world.trace = true := by
  intro always
  have held := always obliged obliged_blank .zero replayed .encore ⟨2⟩ rfl
  have unheld : Effect.focusIn ((obliged.launch .zero).after replayed).world.trace = false := by
    decide
  exact Bool.false_ne_true (unheld.symm.trans held)

end Core
end MediaPlayback
