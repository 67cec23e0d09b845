import MediaPlayback.Proofs.Stage
import MediaPlayback.Proofs.Steadiness

/-! A pause that was asked for lasts. From then on no playback is wanted, and none waits for audio focus
to come back, until somebody asks for playback or a session that is live is completed. Whatever else
happens, whatever the host answers, nothing is played. -/

namespace MediaPlayback

/-- Whether somebody asks for playback by a message. -/
def Message.demandsPlayback : Message → Bool
  | .play | .playItem _ | .playInPlaylist .. | .toggle | .forward | .backward => true
  | _ => false

theorem Message.asksToPlay_eq_false {m : Message} (undemanded : m.demandsPlayback = false)
    (other : m ≠ .focus .gained) : m.asksToPlay = false := by
  cases m with
  | play | playItem | playInPlaylist | toggle | forward | backward => contradiction
  | focus change =>
    cases change with
    | gained => exact absurd rfl other
    | lost | lostTransient => rfl
  | _ => rfl

/-- A request that is awaited and that leads to a pause does not report that it plays. -/
theorem Mode.Candid.silent {mode : Mode} (candid : mode.Candid)
    (unwanted : mode.wantsPlayback = false) : mode.reported ≠ .playing := by
  cases mode with
  | idle | paused => nofun
  | playing => contradiction
  | preparing item request =>
    intro playing
    have active : request.reported ≠ .stopped := by rw [show request.reported = _ from playing]; nofun
    have autoplay := (candid.reported_iff active).1.mp playing
    exact Bool.false_ne_true (unwanted.symm.trans autoplay)

namespace Engine

/-- A session that is ready is paused. -/
def Paused (e : Engine) : Prop := ∃ item session, e.mode = .paused item session

/-- Playback was paused until audio focus comes back. -/
def AwaitsFocus (e : Engine) : Prop := e.focusPaused = true ∧ e.Paused

/-- No playback is wanted, and none waits for audio focus to come back. -/
def AtRest (e : Engine) : Prop := e.mode.wantsPlayback = false ∧ e.focusPaused = false

variable {e e' : Engine} {item : Item} {session : SessionId}

theorem AtRest.no_focus_awaited (rest : e.AtRest) : ¬ e.AwaitsFocus :=
  fun awaits => Bool.false_ne_true (rest.2.symm.trans awaits.1)

@[simp] theorem pointed_focusPaused (e : Engine) (index : Nat) :
    (e.pointed index).focusPaused = e.focusPaused := by
  unfold Engine.pointed
  split <;> rfl

theorem Resumes.waits (resumes : e.Resumes item session e') (waits : e'.focusPaused = true) :
    e.focusPaused = true := by
  cases resumes with
  | denied | played => exact waits
  | failed => contradiction

theorem Pauses.waits (pauses : e.Pauses e') (waits : e'.focusPaused = true) :
    e.focusPaused = true := by
  cases pauses with
  | paused | held | kept => exact waits
  | failed => contradiction

theorem Plays.unwaiting (plays : e.Plays e') : e'.focusPaused = false := by
  cases plays with
  | resumed _ resumes =>
    exact Bool.eq_false_iff.mpr fun waits => absurd (resumes.waits waits) Bool.false_ne_true
  | awaited | started | nothing | playing => rfl

theorem navigated_waits {ahead : Bool} (waits : (e.navigated ahead).focusPaused = true) :
    e.focusPaused = true := by
  unfold Engine.navigated at waits
  dsimp only at waits
  split at waits
  · exact waits
  · split at waits <;> contradiction

/-- Only a transient loss of focus while something plays makes the engine wait for focus. -/
theorem Handles.waits {m : Message} (handles : e.Handles m e') (waits : e'.focusPaused = true) :
    e.focusPaused = true ∨
      m = .focus .lostTransient ∧ ∃ item session, e.mode = .playing item session := by
  cases handles with
  | lostTransientPlaying playing => exact .inr ⟨rfl, _, _, playing⟩
  | play plays | togglePlay _ plays => exact absurd (plays.unwaiting.symm.trans waits) (by decide)
  | pause pauses | togglePause _ pauses | lostPlaying _ pauses =>
    exact absurd (pauses.waits waits) Bool.false_ne_true
  | forward | backward | advanced => exact .inl (navigated_waits waits)
  | reselected _ _ resumes => exact .inl (resumes.waits waits)
  | gainedPaused waited => exact .inl waited
  | preparedBegun _ _ _ begins =>
    cases begins with
    | denied | played => exact .inl waits
    | failed => contradiction
  | setPlaylistAround =>
    rw [pointed_focusPaused] at waits
    exact .inl waits
  | playItemInside | playItemOutside | chosen | seekStarted | indexStarted | recreated | reset
  | setPlaylistWithout | preparedFailed | finished | lost | gained => contradiction
  | seekLive | seekAwaited | seekNothing | setRepeatMode | setShuffle | reselectedAwaited
  | reselectedPlaying | notChosen | setPlaylist | indexOutside | indexOnly | snapshot | progress
  | preparedLate | preparedHeld | outputStale | outputFailed | replayed | lostTransient
  | background | foreground | tick | shutdown => exact .inl waits

/-- After a pause that was asked for, the engine is at rest. -/
theorem Handles.atRest_of_pause (handles : e.Handles .pause e') : e'.AtRest := by
  cases handles with
  | pause pauses =>
    refine ⟨pauses.unwanted, Bool.eq_false_iff.mpr fun waits => ?_⟩
    exact absurd (pauses.waits waits) Bool.false_ne_true

/-- An engine at rest stays so until playback is asked for or continues. -/
theorem Handles.atRest {m : Message} (handles : e.Handles m e') (rest : e.AtRest)
    (undemanded : m.demandsPlayback = false) (ends : e.continues m = false) : e'.AtRest := by
  obtain ⟨unwanted, unwaiting⟩ := rest
  have calm : e'.focusPaused = false := by
    refine Bool.eq_false_iff.mpr fun waits => ?_
    rcases handles.waits waits with waited | ⟨_, item, session, playing⟩
    · exact Bool.false_ne_true (unwaiting.symm.trans waited)
    · rw [playing] at unwanted
      contradiction
  refine ⟨?_, calm⟩
  by_cases gains : m = .focus .gained
  · subst gains
    cases handles with
    | gainedPaused waits => exact absurd (unwaiting.symm.trans waits) (by decide)
    | gained => exact unwanted
  · exact handles.unwanted (Message.asksToPlay_eq_false undemanded gains) ends unwanted

end Engine

namespace World

variable {σ L : Type} [Surroundings σ L]

/-- Focus that comes back and is not awaited is noted in the log, and that is all. -/
theorem turn_of_unawaited_focus (w : World σ L) (announced : w.engine.Announced)
    (unawaited : ¬ w.engine.AwaitsFocus) :
    ∃ entries : List LogRecord, w.turn (.focus .gained) = { w with
      engine := { w.engine with focusPaused := false }
      trace := entries.map .logged ++ w.trace } := by
  let noted := (w.log .engine .trace "Engine command"
    [("command", (Message.focus .gained).name)]).log .engine .debug "Audio focus changed"
      [("change", FocusChange.gained.name)]
  have entries : ∃ entries : List LogRecord, noted.setFocusPaused false = { w with
      engine := { w.engine with focusPaused := false }
      trace := entries.map .logged ++ w.trace } := ⟨[_, _], rfl⟩
  have handled : (w.log .engine .trace "Engine command"
      [("command", (Message.focus .gained).name)]).onFocus .gained =
        noted.setFocusPaused false := by
    show (if noted.engine.focusPaused then _ else noted) = _
    split
    case isTrue waits =>
      split
      case h_1 item session paused => exact absurd ⟨waits, item, session, paused⟩ unawaited
      case h_2 => rfl
    case isFalse calm =>
      have calm : noted.engine.focusPaused = false := by simpa using calm
      unfold World.setFocusPaused
      rw [← calm]
  have published : (noted.setFocusPaused false).publish = noted.setFocusPaused false :=
    publish_of_announced _ ⟨announced.state, announced.item⟩
  unfold turn
  rw [handle, handled, published]
  exact entries

end World

namespace Core

variable {σ L : Type} {c : Core σ L}

/-- The live session of whose completion the engine learns in an action. -/
def concluded (c : Core σ L) (action : Action σ L) : List SessionId :=
  ((c.takes action).filterMap Message.completed?).filter fun session =>
    c.world.engine.live = some session

/-- Where no live session is completed, playback does not continue. -/
theorem Sound.continued_of_concluded (sound : c.Sound) {action : Action σ L}
    (unconcluded : c.concluded action = []) : ∀ m ∈ c.takes action,
      c.world.engine.continues m = false := by
  intro m mem
  refine Bool.eq_false_iff.mpr fun continues => ?_
  unfold Engine.continues at continues
  split at continues
  case h_1 session =>
    obtain ⟨live, _⟩ := Bool.and_eq_true_iff.mp continues
    have concluded : session ∈ c.concluded action :=
      List.mem_filter.mpr ⟨List.mem_filterMap.mpr ⟨_, mem, rfl⟩, by rw [sound.coherent.live]; exact live⟩
    rw [unconcluded] at concluded
    contradiction
  case h_2 => contradiction

variable [Surroundings σ L]

/-- An engine at rest makes nothing be played and stays at rest. -/
theorem Sound.act_atRest (sound : c.Sound) (rest : c.world.engine.AtRest) (action : Action σ L)
    (undemanded : ∀ m ∈ c.takes action, m.demandsPlayback = false)
    (unconcluded : c.concluded action = []) :
    (c.act action).world.engine.AtRest ∧ (c.act action).world.played = c.world.played := by
  have ends := sound.continued_of_concluded unconcluded
  constructor
  · rcases act_engine sound.settled action with
      ⟨_, same⟩ | ⟨m, e', shown, rfl, next, handles, turned⟩ | ⟨shown, ended⟩
    · rw [same]
      exact rest
    · have taken : m ∈ c.takes .take := by simp [takes, next]
      rw [turned]
      exact handles.atRest rest (undemanded m taken) (ends m taken)
    · rw [ended]
      exact ⟨rfl, rfl⟩
  · by_cases gains : .focus .gained ∈ c.takes action
    · obtain ⟨rfl, next⟩ : action = .take ∧ c.next? = some (.focus .gained) := by
        cases action with
        | take => exact ⟨rfl, Option.mem_toList.mp gains⟩
        | _ => contradiction
      obtain ⟨_, _, turned⟩ := act_take next (by simp)
      obtain ⟨entries, noted⟩ := c.world.turn_of_unawaited_focus sound.announced
        rest.no_focus_awaited
      have silent : (entries.map Effect.logged).filterMap (Effect.plays? (L := L)) = [] := by
        simp [List.filterMap_map, Effect.plays?, Function.comp_def]
      rw [turned, noted]
      simp [World.played, Effect.playedIn, silent]
    · have unasked : ∀ m ∈ c.takes action, m.asksToPlay = false := fun m mem =>
        Message.asksToPlay_eq_false (undemanded m mem) fun same => gains (same ▸ mem)
      have silent : c.unbidden action = [] := List.flatMap_eq_nil_iff.mpr fun m mem =>
        c.world.unbidden_eq_nil rest.1 (ends m mem)
      rw [sound.act_played action unasked, silent, List.nil_append]

theorem Sound.after_atRest (sound : c.Sound) (rest : c.world.engine.AtRest)
    (actions : List (Action σ L)) (undemanded : ∀ m ∈ c.taken actions, m.demandsPlayback = false)
    (unconcluded : along concluded c actions = []) :
    (c.after actions).world.engine.AtRest ∧ (c.after actions).world.played = c.world.played := by
  induction actions generalizing c with
  | nil => exact ⟨rest, rfl⟩
  | cons action later ih =>
    obtain ⟨now, then_⟩ := List.append_eq_nil_iff.mp unconcluded
    obtain ⟨still, silent⟩ := sound.act_atRest rest action
      (fun m mem => undemanded m (List.mem_append_left _ mem)) now
    obtain ⟨rests, played⟩ := ih (sound.act action) still
      (fun m mem => undemanded m (List.mem_append_right _ mem)) then_
    exact ⟨rests, played.trans silent⟩

/-- After a pause was asked for, and until somebody asks for playback or a session is completed while
it is live, nothing is played and others never see that something plays. -/
theorem pause_lasts (blank : c.Blank) (interval : Duration) (earlier later : List (Action σ L))
    (next : ((c.launch interval).after earlier).next? = some .pause)
    (undemanded : ∀ m ∈ (((c.launch interval).after earlier).act .take).taken later,
      m.demandsPlayback = false)
    (unconcluded : along concluded (((c.launch interval).after earlier).act .take) later = []) :
    let before := (c.launch interval).after earlier
    ∀ initial, initial <+: later →
      ((before.act .take).after initial).world.played = before.world.played ∧
      ((before.act .take).after initial).world.engine.mode.reported ≠ .playing := by
  rintro before initial ⟨rest, rfl⟩
  have sound : before.Sound := (Sound.launch blank interval).after earlier
  obtain ⟨_, _, turned⟩ := act_take next nofun
  obtain ⟨e', shown, handles, turns⟩ := before.world.turn_engine .pause
  have paused : (before.act .take).world.engine.AtRest := by
    rw [show (before.act .take).world = _ from turned, turns]
    exact handles.atRest_of_pause
  have silent : (before.act .take).world.played = before.world.played := by
    have taken : before.takes .take = [.pause] := by simp [before, takes, next]
    have played := sound.act_played .take (by simp [taken, Message.asksToPlay])
    rw [unbidden, taken] at played
    exact played
  unfold taken at undemanded
  rw [along_append] at undemanded unconcluded
  obtain ⟨rests, played⟩ := (sound.act .take).after_atRest paused initial
    (fun m mem => undemanded m (List.mem_append_left _ mem))
    (List.append_eq_nil_iff.mp unconcluded).1
  have candid : ((before.act .take).after initial).world.engine.mode.Candid := by
    have reached := candid_after blank interval (earlier ++ .take :: initial)
    rw [after_append, after_cons] at reached
    exact reached
  exact ⟨played.trans silent, candid.silent rests.1⟩

/-- A song plays, the encore is chosen to take its place, and a pause is asked for before the encore is
prepared. -/
def thoughtBetter : List (Action Obliging Empty) :=
  [.command (.choose .song), .take, .ask, .answer 1 (.ok ⟨⟨1⟩, none⟩), .take,
    .command (.choose .encore), .take, .command .pause]

/-- Afterwards focus is lost for a while, the encore is prepared, the song's session is reported to be
completed, and a playlist without the encore is set. The song is prepared at a position while focus
comes back. -/
def unbroken : List (Action Obliging Empty) :=
  [.focus .lostTransient, .ask, .take, .answer 2 (.ok ⟨⟨2⟩, none⟩), .take,
    .output (.completed ⟨1⟩), .take, .command (.setPlaylist (.collection "Mix" [.song])), .take,
    .command (.seek .zero), .take, .ask, .focus .gained, .answer 3 (.ok ⟨⟨3⟩, none⟩), .take,
    .take]

/-- The song is paused in the end, and nothing was played in all that time. -/
theorem pause_lasts_unbroken :
    let before := (obliged.launch .zero).after thoughtBetter
    before.next? = some .pause ∧
    ((before.act .take).after unbroken).world.engine.mode = .paused .song ⟨3⟩ ∧
    before.world.played = [⟨1⟩] ∧
    ∀ initial, initial <+: unbroken →
      ((before.act .take).after initial).world.played = [⟨1⟩] ∧
      ((before.act .take).after initial).world.engine.mode.reported ≠ .playing := by
  have next : ((obliged.launch .zero).after thoughtBetter).next? = some .pause := by rfl
  have played : ((obliged.launch .zero).after thoughtBetter).world.played = [⟨1⟩] := by
    decide +kernel
  have lasts := pause_lasts obliged_blank .zero thoughtBetter unbroken next (by decide +kernel)
    (by decide +kernel)
  dsimp only at lasts
  rw [played] at lasts
  exact ⟨next, by decide +kernel, played, lasts⟩

end Core
end MediaPlayback
