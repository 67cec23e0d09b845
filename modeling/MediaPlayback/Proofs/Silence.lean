import MediaPlayback.Proofs.Engine.Played
import MediaPlayback.Proofs.Invariant

/-! What is heard after focus was lost, as long as nobody asks for playback and focus does not come
back. An engine that does not want playback stays silent until its session is completed and something
follows. But a loss only pauses what plays already: an item that is prepared to be played is played
all the same. -/

namespace MediaPlayback
namespace Engine

/-- Whether a message is about the end of the live session, and playback continues with the same item
or with the next one. -/
def continues (e : Engine) : Message → Bool
  | .output (.completed session) =>
    e.mode.session? = some session && (e.cursor.repeatMode = .item || e.cursor.canForward)
  | _ => false

@[simp] theorem startRequest_autoplay (e : Engine) (autoplay : Bool) (seekTo : Option Duration) :
    (e.startRequest autoplay seekTo).autoplay = autoplay := by
  unfold startRequest
  cases autoplay <;> dsimp only <;> split <;> rfl

@[simp] theorem started_wantsPlayback (e : Engine) (item : Item) (autoplay : Bool)
    (seekTo : Option Duration) :
    (e.started item autoplay seekTo).mode.wantsPlayback = autoplay :=
  e.startRequest_autoplay autoplay seekTo

@[simp] theorem pointed_mode (e : Engine) (index : Nat) : (e.pointed index).mode = e.mode := by
  unfold Engine.pointed
  split <;> rfl

variable {e e' : Engine}

/-- After a pause no playback is wanted. -/
theorem Pauses.unwanted (pauses : e.Pauses e') : e'.mode.wantsPlayback = false := by
  cases pauses with
  | paused | failed | held => rfl
  | kept playing preparing =>
    cases mode : e.mode with
    | idle | paused => rfl
    | preparing item request => exact absurd mode (preparing item request)
    | playing item session => exact absurd mode (playing item session)

/-- A loss of focus pauses what plays, and so no playback is wanted, unless an item is prepared to be
played. -/
theorem Handles.unwanted_of_loss {change : FocusChange} (handles : e.Handles (.focus change) e')
    (loss : change ≠ .gained)
    (held : ∀ item request, e.mode = .preparing item request → request.autoplay = false) :
    e'.mode.wantsPlayback = false := by
  have quiet : (∀ item session, e.mode ≠ .playing item session) → e.mode.wantsPlayback = false := by
    intro silent
    cases mode : e.mode with
    | idle | paused => rfl
    | preparing item request => exact held item request mode
    | playing item session => exact absurd mode (silent item session)
  cases handles with
  | lostPlaying _ pauses => exact pauses.unwanted
  | lostTransientPlaying _ pauses => exact pauses.unwanted
  | lost silent => exact quiet silent
  | lostTransient silent => exact quiet silent
  | gainedPaused | gained => contradiction

/-- Where no playback is wanted, it takes a message that asks for it, or one that makes it continue,
to change that. -/
theorem Handles.unwanted {m : Message} (handles : e.Handles m e')
    (unasked : m.asksToPlay = false) (ends : e.continues m = false)
    (unwanted : e.mode.wantsPlayback = false) : e'.mode.wantsPlayback = false := by
  cases handles with
  | play | playItemInside | playItemOutside | togglePause | togglePlay | forward | backward
  | reselected | reselectedAwaited | reselectedPlaying | chosen | notChosen | gainedPaused
  | gained => contradiction
  | replayed live _ again | recreated live _ again => simp [continues, live, again] at ends
  | advanced live _ more => simp [continues, live, more] at ends
  | pause pauses => exact pauses.unwanted
  | lostPlaying _ pauses => exact pauses.unwanted
  | lostTransientPlaying _ pauses => exact pauses.unwanted
  | seekAwaited preparing => simpa [preparing, Mode.wantsPlayback] using unwanted
  | seekStarted => simp
  | setPlaylistAround => rw [pointed_mode]; exact unwanted
  | indexStarted => rw [started_wantsPlayback]; exact unwanted
  | preparedBegun preparing _ autoplay => simp [preparing, Mode.wantsPlayback, autoplay] at unwanted
  | reset | setPlaylistWithout | preparedFailed | preparedHeld | finished => rfl
  | seekLive | seekNothing | setRepeatMode | setShuffle | setPlaylist | indexOutside | indexOnly
  | snapshot | progress | preparedLate | outputStale | outputFailed | lost | lostTransient
  | background | foreground | tick | shutdown => exact unwanted

end Engine

namespace World

variable {σ L : Type} [Surroundings σ L]

/-- Nothing is played unasked unless playback is wanted or continues. -/
theorem unbidden_eq_nil (w : World σ L) {m : Message}
    (unwanted : w.engine.mode.wantsPlayback = false) (ends : w.engine.continues m = false) :
    w.unbidden m = [] := by
  unfold unbidden
  split
  case h_1 id item prepared =>
    split
    case h_1 active request preparing =>
      have held : request.autoplay = false := by simpa [preparing, Mode.wantsPlayback] using unwanted
      simp [held]
    case h_2 => rfl
  case h_2 session =>
    have other : ¬ (w.engine.mode.session? = some session ∧ w.engine.cursor.repeatMode = .item) := by
      rintro ⟨live, again⟩
      simp [Engine.continues, live, again] at ends
    exact if_neg fun ⟨live, again, _⟩ => other ⟨live, again⟩
  case h_3 => rfl

end World

namespace Core

variable {σ L : Type} [Surroundings σ L] {c : Core σ L}

/-- The sessions that are played in an action although the message that is taken does not ask for
playback. -/
def unbidden (c : Core σ L) (action : Action σ L) : List SessionId :=
  (c.takes action).flatMap c.world.unbidden

/-- The messages taken in an action with which playback continues. -/
def continued (c : Core σ L) (action : Action σ L) : List Message :=
  (c.takes action).filter c.world.engine.continues

theorem unbidden_reverse (c : Core σ L) (action : Action σ L) :
    (c.unbidden action).reverse = c.unbidden action := by
  cases action with
  | take =>
    unfold unbidden takes
    cases c.next? <;> simp [World.unbidden_reverse]
  | _ => rfl

theorem finish_played (c : Core σ L) : c.finish.world.played = c.world.played := by
  unfold finish
  rw [collect_eq]
  exact (World.publish_played _).trans c.world.reset_played

/-- What is played in an action in which nobody asks for playback. -/
theorem Sound.act_played (sound : c.Sound) (action : Action σ L)
    (unasked : ∀ m ∈ c.takes action, m.asksToPlay = false) :
    (c.act action).world.played = c.unbidden action ++ c.world.played := by
  have moves := act_moves sound.settled action
  generalize acts : c.act action = c' at moves ⊢
  cases moves with
  | stays untaken _ stays =>
    rw [unbidden, untaken]
    exact stays.mutters.played
  | @turns m rest posts running next _ _ =>
    have takes : c.takes .take = [m] := by simp [Core.takes, next?, running, next]
    have turned := c.world.turn_played sound.coherent (unasked m (by simp [takes]))
    rw [unbidden, takes, List.flatMap_singleton]
    exact turned
  | ends running cause =>
    have silent : c.unbidden action = [] := by
      rcases cause with ⟨rfl, rest, next⟩ | ⟨rfl, _, _⟩
      · simp [unbidden, Core.takes, next?, running, next, World.unbidden]
      · rfl
    rw [silent, ← acts]
    rcases cause with ⟨rfl, rest, next⟩ | ⟨rfl, empty, free⟩
    · rw [Core.act, if_pos running, takeMessage, next]
      exact finish_played _
    · simp [Core.act, running, empty, endUnlessHeld, free, finish_played]
  | delivers | lapses => rfl
  | refuses => exact World.call_played _ _

/-- What is played along a run in which nobody asks for playback. -/
theorem Sound.after_played (sound : c.Sound) (actions : List (Action σ L))
    (unasked : ∀ m ∈ c.taken actions, m.asksToPlay = false) :
    (c.after actions).world.played = (along unbidden c actions).reverse ++ c.world.played := by
  induction actions generalizing c with
  | nil => rfl
  | cons action rest ih =>
    have now := sound.act_played action fun m mem => unasked m (List.mem_append_left _ mem)
    rw [after_cons, ih (sound.act action) fun m mem => unasked m (List.mem_append_right _ mem), now,
      along, List.reverse_append, unbidden_reverse, List.append_assoc]

/-- An engine that does not want playback stays silent as long as nobody asks for it and playback
does not continue. -/
theorem Sound.silent (sound : c.Sound) (unwanted : c.world.engine.mode.wantsPlayback = false)
    (actions : List (Action σ L)) (unasked : ∀ m ∈ c.taken actions, m.asksToPlay = false)
    (ends : along continued c actions = []) : along unbidden c actions = [] := by
  induction actions generalizing c with
  | nil => rfl
  | cons action rest ih =>
    obtain ⟨now, later⟩ := List.append_eq_nil_iff.mp ends
    have quiet : ∀ m ∈ c.takes action, c.world.engine.continues m = false :=
      fun m mem => by simpa using List.filter_eq_nil_iff.mp now m mem
    have silent : c.unbidden action = [] := List.flatMap_eq_nil_iff.mpr fun m mem =>
      c.world.unbidden_eq_nil unwanted (quiet m mem)
    rw [along, silent, List.nil_append]
    refine ih (sound.act action) ?_ (fun m mem => unasked m (List.mem_append_right _ mem)) later
    rcases act_engine sound.settled action with
      ⟨_, same⟩ | ⟨m, e', shown, rfl, next, handles, turned⟩ | ⟨shown, ended⟩
    · rw [same]
      exact unwanted
    · have taken : m ∈ c.takes .take := by simp [takes, next]
      rw [turned]
      exact handles.unwanted (unasked m (List.mem_append_left _ taken)) (quiet m taken) unwanted
    · rw [ended]
      rfl

/-- After focus was lost, and until somebody asks for playback or focus comes back, exactly the
unbidden sessions are played. There are none unless an item was being prepared to be played when
focus was lost, or playback continues after a session that is completed. -/
theorem silent_after_loss (blank : c.Blank) (interval : Duration) (earlier later : List (Action σ L))
    {change : FocusChange} (loss : change ≠ .gained)
    (next : ((c.launch interval).after earlier).next? = some (.focus change))
    (unasked : ∀ m ∈ (((c.launch interval).after earlier).act .take).taken later,
      m.asksToPlay = false) :
    let before := (c.launch interval).after earlier
    let lost := before.act .take
    (lost.after later).world.played = (along unbidden lost later).reverse ++ before.world.played ∧
    ((∀ item request, before.world.engine.mode = .preparing item request →
        request.autoplay = false) →
      along continued lost later = [] →
      (lost.after later).world.played = before.world.played) := by
  intro before lost
  have sound := (Sound.launch blank interval).after earlier
  have taken : before.takes .take = [.focus change] := by simp [before, takes, next]
  have atLoss : lost.world.played = before.world.played := by
    have played := sound.act_played .take (by
      rw [taken]
      cases change <;> simp_all [Message.asksToPlay])
    rw [unbidden, taken] at played
    exact played
  have played := (sound.act .take).after_played later unasked
  rw [atLoss] at played
  refine ⟨played, fun held ends => ?_⟩
  have unwanted : lost.world.engine.mode.wantsPlayback = false := by
    obtain ⟨_, _, turned⟩ := act_take next (by simp)
    obtain ⟨e', shown, handles, turns⟩ := before.world.turn_engine (.focus change)
    show (before.act .take).world.engine.mode.wantsPlayback = false
    rw [turned]
    show (before.world.turn (.focus change)).engine.mode.wantsPlayback = false
    rw [turns]
    exact handles.unwanted_of_loss loss held
  rw [played, (sound.act .take).silent unwanted later unasked ends]
  rfl

/-- The encore of `overtaken` plays when focus is lost for a while. -/
def interrupted : List (Action Obliging Empty) :=
  overtaken ++ [.take, .take, .focus .lostTransient]

/-- Afterwards the encore is sought in, the song's session is reported to be completed, a playlist
without the encore is set, and the song is prepared at a position. -/
def interlude : List (Action Obliging Empty) :=
  [.command ⟨.seek .zero, rfl⟩, .take, .output (.completed ⟨1⟩), .take,
    .command ⟨.setPlaylist (.collection "Mix" [.song]), rfl⟩, .take,
    .command ⟨.seek .zero, rfl⟩, .take, .ask, .answer 3 (.ok ⟨⟨3⟩, none⟩), .take]

/-- The song is paused in the end, and nothing was played after the encore. -/
theorem silent_after_loss_interrupted :
    let before := (obliged.launch .zero).after interrupted
    let s := (before.act .take).after interlude
    before.next? = some (.focus .lostTransient) ∧ s.world.engine.mode = .paused .song ⟨3⟩ ∧
    before.world.played = [⟨2⟩] ∧ s.world.played = before.world.played := by
  have next : ((obliged.launch .zero).after interrupted).next? =
      some (.focus .lostTransient) := by rfl
  have mode : ((obliged.launch .zero).after interrupted).world.engine.mode =
      .playing .encore ⟨2⟩ := by decide +kernel
  have silent := (silent_after_loss obliged_blank .zero interrupted interlude (by decide) next
    (by decide +kernel)).2
  refine ⟨next, by decide +kernel, by decide +kernel, silent ?_ (by decide +kernel)⟩
  intro item request preparing
  cases mode.symm.trans preparing

/-- The song plays, and the encore is prepared to take its place when focus is lost for a while. -/
def replacedAtLoss : List (Action Obliging Empty) :=
  [.command (.choose .song), .take, .ask, .answer 1 (.ok ⟨⟨1⟩, none⟩), .take,
    .command (.choose .encore), .take, .ask, .focus .lostTransient]

/-- After focus was lost, something may be played although nobody asks for it. -/
theorem exists_played_after_loss : ¬ ∀ (c : Core Obliging Empty), c.Blank →
    ∀ (interval : Duration) (earlier later : List (Action Obliging Empty)) (change : FocusChange),
    change ≠ .gained → ((c.launch interval).after earlier).next? = some (.focus change) →
    (∀ m ∈ (((c.launch interval).after earlier).act .take).taken later, m.asksToPlay = false) →
    ((((c.launch interval).after earlier).act .take).after later).world.played =
      ((c.launch interval).after earlier).world.played := by
  intro silent
  have same := silent obliged obliged_blank .zero replacedAtLoss
    [.answer 2 (.ok ⟨⟨2⟩, none⟩), .take] .lostTransient (by decide) (by rfl) (by decide +kernel)
  have before : ((obliged.launch .zero).after replacedAtLoss).world.played = [⟨1⟩] := by
    decide +kernel
  have after : ((((obliged.launch .zero).after replacedAtLoss).act .take).after
      [.answer 2 (.ok ⟨⟨2⟩, none⟩), .take]).world.played = [⟨2⟩, ⟨1⟩] := by decide +kernel
  rw [before, after] at same
  contradiction

end Core
end MediaPlayback
