import Mathlib.Data.List.Induction
import MediaPlayback.Proofs.Pause

/-! Focus that comes back resumes what its transient loss interrupted, and nothing else. Whether
playback waits for focus is a fact about the history: it was playing when focus was lost for a while,
it is paused ever since, and nothing that decides about the pause happened meanwhile. -/

namespace MediaPlayback

/-- Whether a message decides what becomes of a pause. -/
def Message.settlesPause : Message → Bool
  | .play | .pause | .toggle | .focus .lost | .focus .gained => true
  | _ => false

namespace Engine

/-- A session plays. -/
def Playing (e : Engine) : Prop := ∃ item session, e.mode = .playing item session

/-- While something is prepared, playback does not wait for focus. -/
def StartsAfresh (e : Engine) : Prop :=
  ∀ item request, e.mode = .preparing item request → e.focusPaused = false

variable {e e' : Engine} {item : Item} {session : SessionId}

theorem awaitsFocus_of_paused (waits : e.focusPaused = true)
    (paused : e.mode = .paused item session) : e.AwaitsFocus := ⟨waits, item, session, paused⟩

theorem navigated_unpaused (e : Engine) (ahead : Bool) : ¬ (e.navigated ahead).Paused := by
  unfold Engine.navigated
  dsimp only
  split
  case isTrue idle =>
    rintro ⟨_, _, paused⟩
    cases idle.symm.trans paused
  case isFalse => split <;> rintro ⟨_, _, ⟨⟩⟩

theorem Begins.unpaused (begins : e.Begins item session e') : ¬ e'.Paused := by
  cases begins <;> rintro ⟨_, _, ⟨⟩⟩

theorem Resumes.keeps_waiting (resumes : e.Resumes item session e') (paused : e'.Paused) :
    e'.focusPaused = e.focusPaused := by
  obtain ⟨_, _, paused⟩ := paused
  cases resumes with
  | denied => rfl
  | played | failed => cases paused

/-- A pause that waits for focus comes from a transient loss of focus while something played, or it
waited already and was not settled. -/
theorem Handles.awaitsFocus_before {m : Message} (handles : e.Handles m e')
    (afresh : e.StartsAfresh) (awaits : e'.AwaitsFocus) :
    (m = .focus .lostTransient ∧ e.Playing) ∨ (e.AwaitsFocus ∧ m.settlesPause = false) := by
  obtain ⟨waits, paused⟩ := awaits
  cases handles with
  | lostTransientPlaying playing => exact .inl ⟨rfl, _, _, playing⟩
  | play plays | togglePlay _ plays => exact absurd (plays.unwaiting.symm.trans waits) (by decide)
  | pause pauses | togglePause _ pauses | lostPlaying _ pauses =>
    exact absurd (pauses.waits waits) Bool.false_ne_true
  | gainedPaused _ _ resumes => exact absurd (resumes.waits waits) Bool.false_ne_true
  | lost | gained => contradiction
  | reselected before _ resumes => exact .inr ⟨⟨resumes.waits waits, _, _, before⟩, rfl⟩
  | preparedHeld preparing => exact absurd ((afresh _ _ preparing).symm.trans waits) (by decide)
  | preparedBegun _ _ _ begins => exact absurd paused begins.unpaused
  | forward | backward | advanced => exact absurd paused (navigated_unpaused e _)
  | setPlaylistAround =>
    rw [pointed_focusPaused] at waits
    rw [Paused, pointed_mode] at paused
    exact .inr ⟨⟨waits, paused⟩, rfl⟩
  | seekAwaited | reselectedAwaited | playItemInside | playItemOutside | chosen | seekStarted
  | indexStarted | recreated | replayed | reset | setPlaylistWithout | preparedFailed | finished =>
    obtain ⟨_, _, ⟨⟩⟩ := paused
  | seekLive | seekNothing | setRepeatMode | setShuffle | reselectedPlaying | notChosen
  | setPlaylist | indexOutside | indexOnly | snapshot | progress | preparedLate | outputStale
  | outputFailed | lostTransient | background | foreground | tick | shutdown =>
    exact .inr ⟨⟨waits, paused⟩, rfl⟩

/-- A pause goes on to wait for focus until it is settled. -/
theorem Handles.keeps_waiting {m : Message} (handles : e.Handles m e') (awaits : e.AwaitsFocus)
    (unsettled : m.settlesPause = false) (still : e'.Paused) : e'.focusPaused = true := by
  obtain ⟨waits, item, session, paused⟩ := awaits
  cases handles with
  | play | pause | togglePlay | togglePause | lostPlaying | lost | gainedPaused | gained =>
    contradiction
  | lostTransientPlaying => rfl
  | reselected _ _ resumes => exact (resumes.keeps_waiting still).trans waits
  | preparedHeld preparing => cases preparing.symm.trans paused
  | preparedBegun _ _ _ begins => exact absurd still begins.unpaused
  | forward | backward | advanced => exact absurd still (navigated_unpaused e _)
  | setPlaylistAround => exact (pointed_focusPaused _ _).trans waits
  | seekAwaited | reselectedAwaited | playItemInside | playItemOutside | chosen | seekStarted
  | indexStarted | recreated | replayed | reset | setPlaylistWithout | preparedFailed | finished =>
    obtain ⟨_, _, ⟨⟩⟩ := still
  | seekLive | seekNothing | setRepeatMode | setShuffle | reselectedPlaying | notChosen
  | setPlaylist | indexOutside | indexOnly | snapshot | progress | preparedLate | outputStale
  | outputFailed | lostTransient | background | foreground | tick | shutdown => exact waits

/-- A pause that a transient loss of focus led to waits for focus. -/
theorem Handles.waits_of_loss (handles : e.Handles (.focus .lostTransient) e')
    (playing : e.Playing) : e'.focusPaused = true := by
  obtain ⟨item, session, playing⟩ := playing
  cases handles with
  | lostTransientPlaying => rfl
  | lostTransient silent => exact absurd playing (silent item session)

/-- What it takes for playback to wait for focus after a message. -/
theorem Handles.awaitsFocus_iff {m : Message} (handles : e.Handles m e')
    (afresh : e.StartsAfresh) :
    e'.AwaitsFocus ↔ e'.Paused ∧
      ((m = .focus .lostTransient ∧ e.Playing) ∨ (e.AwaitsFocus ∧ m.settlesPause = false)) := by
  constructor
  · exact fun awaits => ⟨awaits.2, handles.awaitsFocus_before afresh awaits⟩
  · rintro ⟨paused, ⟨rfl, playing⟩ | ⟨awaits, unsettled⟩⟩
    · exact ⟨handles.waits_of_loss playing, paused⟩
    · exact ⟨handles.keeps_waiting awaits unsettled paused, paused⟩

theorem Pauses.startsAfresh (pauses : e.Pauses e') (afresh : e.StartsAfresh) : e'.StartsAfresh := by
  cases pauses with
  | paused | failed => nofun
  | held preparing => exact fun _ _ _ => afresh _ _ preparing
  | kept => exact afresh

theorem StartsAfresh.navigated (afresh : e.StartsAfresh) (ahead : Bool) :
    (e.navigated ahead).StartsAfresh := by
  unfold Engine.navigated
  dsimp only
  split
  · exact afresh
  · split <;> exact fun _ _ _ => rfl

/-- Whatever starts to be prepared does not wait for focus. -/
theorem Handles.startsAfresh {m : Message} (handles : e.Handles m e') (afresh : e.StartsAfresh) :
    e'.StartsAfresh := by
  cases handles with
  | play plays | togglePlay _ plays => exact fun _ _ _ => plays.unwaiting
  | pause pauses | togglePause _ pauses | lostPlaying _ pauses =>
    exact pauses.startsAfresh fun _ _ _ => rfl
  | lostTransientPlaying playing pauses =>
    cases pauses with
    | paused | failed => nofun
    | held preparing => cases playing.symm.trans preparing
    | kept silent => exact absurd playing (silent _ _)
  | reselected _ _ resumes | gainedPaused _ _ resumes => cases resumes <;> nofun
  | preparedBegun _ _ _ begins => cases begins <;> nofun
  | forward | backward | advanced => exact afresh.navigated _
  | seekAwaited preparing | reselectedAwaited preparing => exact fun _ _ _ => afresh _ _ preparing
  | setPlaylistAround =>
    rw [StartsAfresh, pointed_mode, pointed_focusPaused]
    exact afresh
  | preparedHeld | replayed => nofun
  | playItemInside | playItemOutside | chosen | seekStarted | indexStarted | recreated | reset
  | setPlaylistWithout | preparedFailed | finished | lost | gained => exact fun _ _ _ => rfl
  | seekLive | seekNothing | setRepeatMode | setShuffle | reselectedPlaying | notChosen
  | setPlaylist | indexOutside | indexOnly | snapshot | progress | preparedLate | outputStale
  | outputFailed | lostTransient | background | foreground | tick | shutdown => exact afresh

end Engine

/-- A call that was made and what it was answered with. -/
def Effect.exchange? {L : Type} : Effect L → Option ((call : HostCall) × call.Result)
  | .called call result => some ⟨call, result⟩
  | _ => none

theorem Effect.plays?_eq {L : Type} (effect : Effect L) :
    effect.plays? = effect.exchange?.bind (·.1.plays?) := by
  cases effect <;> rfl

/-- The calls by which it is tried to play a paused session on: it is played if audio focus is held
or else granted. -/
inductive Resumption (session : SessionId) :
    (focused : Bool) → List ((call : HostCall) × call.Result) → Prop where
  | focused (result : Except HostError Unit) (rest : List ((call : HostCall) × call.Result)) :
    Resumption session true (⟨.play session, result⟩ :: rest)
  | granted (result : Except HostError Unit) (rest : List ((call : HostCall) × call.Result)) :
    Resumption session false
      (⟨.requestFocus, .ok .granted⟩ :: ⟨.play session, result⟩ :: rest)
  | refused {answer : Except HostError FocusGrant} {rest : List ((call : HostCall) × call.Result)}
    (refusal : answer ≠ .ok .granted) (silent : ∀ later ∈ rest, later.1.plays? = none) :
    Resumption session false (⟨.requestFocus, answer⟩ :: rest)

theorem Resumption.ne_nil {session : SessionId} {focused : Bool}
    {calls : List ((call : HostCall) × call.Result)} (resumption : Resumption session focused calls) :
    calls ≠ [] := by
  cases resumption <;> nofun

/-- What follows may be anything that does not play. -/
theorem Resumption.append {session : SessionId} {focused : Bool}
    {calls more : List ((call : HostCall) × call.Result)}
    (resumption : Resumption session focused calls) (silent : ∀ later ∈ more, later.1.plays? = none) :
    Resumption session focused (calls ++ more) := by
  cases resumption with
  | focused result rest => exact .focused result _
  | granted result rest => exact .granted result _
  | refused refusal before =>
    exact .refused refusal fun later mem => (List.mem_append.mp mem).elim (before _) (silent _)

namespace World

variable {σ L : Type} [Surroundings σ L]

/-- Where focus is held, a paused session is resumed by a call that plays it. -/
theorem resume_of_focused (w : World σ L) (focused : w.engine.hasFocus = true) (item : Item)
    (session : SessionId) : ∃ result effects,
      (w.resume item session).trace = effects ++ .called (.play session) result :: w.trace := by
  have acquired : w.acquireFocus = (true, w) := if_pos focused
  obtain ⟨result, outside, called⟩ := w.exists_call (.play session)
  unfold resume playSession
  rw [acquired]
  dsimp only
  rw [called]
  cases result with
  | ok => exact ⟨_, [], rfl⟩
  | error e =>
    have leads : Leads none _ none _ :=
      fail_leads { w with outside, trace := .called (.play session) (.error e) :: w.trace } item
        (outputFailure "play" e)
    obtain ⟨effects, trace, _⟩ := leads
    exact ⟨_, effects, trace⟩

/-- Focus that is acquired first makes no difference. -/
theorem resume_of_acquired {w w' : World σ L} (acquired : w.acquireFocus = (true, w'))
    (focused : w'.engine.hasFocus = true) (item : Item) (session : SessionId) :
    w.resume item session = w'.resume item session := by
  have again : w'.acquireFocus = (true, w') := if_pos focused
  unfold resume
  rw [acquired, again]

/-- Where focus is refused, nothing more is called. -/
theorem resume_of_refused {w w' : World σ L} (refused : w.acquireFocus = (false, w')) (item : Item)
    (session : SessionId) : ∃ denial emission,
      (w.resume item session).trace = .emitted emission :: .logged denial :: w'.trace := by
  unfold resume
  rw [refused]
  exact ⟨_, _, rfl⟩

/-- A paused session is resumed by a call that plays it, if focus is held or can be had. -/
theorem resume_exchanges (w : World σ L) (item : Item) (session : SessionId) :
    ∃ effects, (w.resume item session).trace = effects ++ w.trace ∧
      Resumption session w.engine.hasFocus (effects.reverse.filterMap Effect.exchange?) := by
  cases focus : w.engine.hasFocus with
  | true =>
    obtain ⟨result, effects, trace⟩ := w.resume_of_focused focus item session
    refine ⟨effects ++ [.called (.play session) result], trace.trans (by simp), ?_⟩
    rw [List.reverse_append]
    exact .focused result _
  | false =>
    have free : ¬ w.engine.hasFocus := by simp [focus]
    obtain ⟨answer, outside, asked⟩ := w.exists_call .requestFocus
    have acquire : w.acquireFocus = _ := if_neg free
    rw [asked] at acquire
    have refused : ∀ {w' : World σ L}, answer ≠ .ok .granted → w.acquireFocus = (false, w') →
        (∃ entry, w'.trace = .logged entry :: .called .requestFocus answer :: w.trace) →
        ∃ effects, (w.resume item session).trace = effects ++ w.trace ∧
          Resumption session false (effects.reverse.filterMap Effect.exchange?) := by
      rintro w' refusal acquired ⟨entry, before⟩
      obtain ⟨denial, emission, trace⟩ := resume_of_refused acquired item session
      rw [before] at trace
      exact ⟨[.emitted emission, .logged denial, .logged entry, .called .requestFocus answer], trace,
        .refused refusal (List.forall_mem_nil _)⟩
    rcases answer with e | (_ | _)
    · exact refused nofun acquire ⟨_, rfl⟩
    · obtain ⟨w', acquired, focused, entry, before⟩ : ∃ w', w.acquireFocus = (true, w') ∧
          w'.engine.hasFocus = true ∧ ∃ entry, w'.trace =
            .logged entry :: .called .requestFocus (.ok .granted) :: w.trace :=
        ⟨_, acquire, rfl, _, rfl⟩
      obtain ⟨result, effects, trace⟩ := w'.resume_of_focused focused item session
      rw [resume_of_acquired acquired focused, trace, before]
      refine ⟨effects ++ [.called (.play session) result, .logged entry,
        .called .requestFocus (.ok .granted)], by simp, ?_⟩
      rw [List.reverse_append]
      exact .granted result _
    · exact refused nofun acquire ⟨_, rfl⟩

theorem onFocus_of_awaited {w : World σ L} {item : Item} {session : SessionId}
    (waits : w.engine.focusPaused = true) (paused : w.engine.mode = .paused item session) :
    w.onFocus .gained = ((w.log .engine .debug "Audio focus changed"
      [("change", FocusChange.gained.name)]).setFocusPaused false).resume item session := by
  simp [onFocus, waits, paused]

/-- Focus that comes back and is awaited makes the live session be resumed. -/
theorem turn_of_awaited_focus (w : World σ L) (coherent : w.engine.Coherent)
    (awaits : w.engine.AwaitsFocus) : ∃ session effects, w.engine.live = some session ∧
      (w.turn (.focus .gained)).trace = effects ++ w.trace ∧
      Resumption session w.engine.hasFocus (effects.reverse.filterMap Effect.exchange?) := by
  obtain ⟨waits, item, session, paused⟩ := awaits
  let logged := w.log .engine .trace "Engine command" [("command", (Message.focus .gained).name)]
  have handled := onFocus_of_awaited (w := logged) waits paused
  generalize noted : (logged.log .engine .debug "Audio focus changed"
    [("change", FocusChange.gained.name)]).setFocusPaused false = begun at handled
  have focus : begun.engine.hasFocus = w.engine.hasFocus := by rw [← noted]; rfl
  obtain ⟨entry, entry', before⟩ : ∃ entry entry', begun.trace =
      .logged entry :: .logged entry' :: w.trace := by
    rw [← noted]
    exact ⟨_, _, rfl⟩
  obtain ⟨effects, resumed, resumption⟩ := begun.resume_exchanges item session
  obtain ⟨later, published, asides⟩ := (begun.resume item session).publish_mutters.trace
  refine ⟨session, later ++ effects ++ [.logged entry, .logged entry'], ?_, ?_, ?_⟩
  · rw [coherent.live, paused]
    rfl
  · show (logged.onFocus .gained).publish.trace = _
    rw [handled, published, resumed, before]
    simp
  · rw [List.append_assoc, List.reverse_append, List.reverse_append, List.filterMap_append,
      List.filterMap_append, ← focus]
    refine resumption.append fun exchange mem => ?_
    obtain ⟨effect, mem, same⟩ := List.mem_filterMap.mp mem
    have silent := Effect.plays?_aside (asides effect (List.mem_reverse.mp mem))
    rwa [Effect.plays?_eq, same] at silent

end World

namespace Core

variable {σ L : Type} [Surroundings σ L] {c : Core σ L}

/-- In a run playback was interrupted: something played when the engine learned that focus is lost for
a while, it is paused ever since, and nothing that happened since then settled the pause. -/
def Interrupted (c : Core σ L) (actions : List (Action σ L)) : Prop :=
  ∃ earlier later, actions = earlier ++ .take :: later ∧
    (c.after earlier).next? = some (.focus .lostTransient) ∧
    (c.after earlier).world.engine.Playing ∧
    (∀ between, between <+: later →
      (c.after (earlier ++ .take :: between)).world.engine.Paused) ∧
    ∀ m ∈ ((c.after earlier).act .take).taken later, m.settlesPause = false

/-- Playback is interrupted by the last action, or it was interrupted before and that action did not
settle it. -/
theorem interrupted_snoc (actions : List (Action σ L)) (action : Action σ L) :
    c.Interrupted (actions ++ [action]) ↔
      (c.after (actions ++ [action])).world.engine.Paused ∧
      ((action = .take ∧ (c.after actions).next? = some (.focus .lostTransient) ∧
          (c.after actions).world.engine.Playing) ∨
        (c.Interrupted actions ∧
          ∀ m ∈ (c.after actions).takes action, m.settlesPause = false)) := by
  have taken : ∀ earlier later : List (Action σ L),
      ((c.after earlier).act .take).taken (later ++ [action]) =
        ((c.after earlier).act .take).taken later ++
          (c.after (earlier ++ .take :: later)).takes action := by
    intro earlier later
    rw [Core.taken, along_append, after_append, after_cons]
    exact congrArg _ (List.append_nil _)
  constructor
  · rintro ⟨earlier, later, split, next, playing, paused, unsettled⟩
    rcases later.eq_nil_or_concat with rfl | ⟨later, last, rfl⟩
    · obtain ⟨rfl, same⟩ := List.append_inj' split rfl
      cases same
      exact ⟨paused [] List.nil_prefix, .inl ⟨rfl, next, playing⟩⟩
    · rw [List.concat_eq_append] at split paused unsettled
      rw [← List.cons_append, ← List.append_assoc] at split
      obtain ⟨rfl, same⟩ := List.append_inj' split rfl
      cases same
      have whole := paused (later ++ [action]) List.prefix_rfl
      rw [← List.cons_append, ← List.append_assoc] at whole
      rw [taken] at unsettled
      refine ⟨whole, .inr ⟨⟨earlier, later, rfl, next, playing, ?_, ?_⟩, ?_⟩⟩
      · exact fun between initial => paused between (initial.trans (List.prefix_append _ _))
      · exact fun m mem => unsettled m (List.mem_append_left _ mem)
      · exact fun m mem => unsettled m (List.mem_append_right _ mem)
  · rintro ⟨whole, ⟨rfl, next, playing⟩ |
      ⟨⟨earlier, later, rfl, next, playing, paused, unsettled⟩, kept⟩⟩
    · refine ⟨actions, [], rfl, next, playing, fun between initial => ?_, nofun⟩
      rw [List.prefix_nil.mp initial]
      exact whole
    · refine ⟨earlier, later ++ [action], by simp, next, playing, ?_, ?_⟩
      · intro between initial
        rcases List.prefix_concat_iff.mp initial with rfl | initial
        · rw [← List.cons_append, ← List.append_assoc]
          exact whole
        · exact paused between initial
      · rw [taken]
        exact fun m mem => (List.mem_append.mp mem).elim (unsettled m) (kept m)

/-- It is tried to resume the live session when the engine takes the next message. -/
def TriesToResume (c : Core σ L) : Prop :=
  ∃ session, c.world.engine.live = some session ∧
    Resumption session c.world.engine.hasFocus ((c.story [.take]).filterMap Effect.exchange?)

theorem Sound.triesToResume (sound : c.Sound) (next : c.next? = some (.focus .gained))
    (awaits : c.world.engine.AwaitsFocus) : c.TriesToResume := by
  obtain ⟨session, effects, live, trace, resumption⟩ :=
    c.world.turn_of_awaited_focus sound.coherent awaits
  obtain ⟨_, _, turned⟩ := act_take next nofun
  have told : (c.story [.take]).filterMap Effect.exchange? =
      (effects.filterMap Effect.exchange?).reverse := by
    refine sound.filterMap_story .take _ ?_
    rw [turned]
    show (c.world.turn _).trace.filterMap _ = _
    rw [trace, List.filterMap_append]
  refine ⟨session, live, ?_⟩
  rw [told, ← List.filterMap_reverse]
  exact resumption

/-- Where focus is not awaited, it is noted that it came back, and that is all. -/
theorem Sound.act_take_unawaited (sound : c.Sound) (next : c.next? = some (.focus .gained))
    (unawaited : ¬ c.world.engine.AwaitsFocus) : ∃ entries : List LogRecord,
    c.act .take = { c with
      mailbox := c.mailbox.tail
      world := { c.world with
        engine := { c.world.engine with focusPaused := false }
        trace := entries.map .logged ++ c.world.trace } } := by
  obtain ⟨entries, turned⟩ := c.world.turn_of_unawaited_focus sound.announced unawaited
  refine ⟨entries, ?_⟩
  rw [act_take_eq next nofun, turned, collect_eq]
  simp [sound.settled.posted, sound.settled.tasks]

/-- What it takes for playback to wait for focus after an action. -/
theorem Sound.awaitsFocus_act (sound : c.Sound) (afresh : c.world.engine.StartsAfresh)
    (action : Action σ L) :
    (c.act action).world.engine.AwaitsFocus ↔ (c.act action).world.engine.Paused ∧
      ((action = .take ∧ c.next? = some (.focus .lostTransient) ∧ c.world.engine.Playing) ∨
        (c.world.engine.AwaitsFocus ∧ ∀ m ∈ c.takes action, m.settlesPause = false)) := by
  rcases act_engine sound.settled action with
    ⟨untaken, same⟩ | ⟨m, e', shown, rfl, next, handles, turned⟩ | ⟨shown, ended⟩
  · rw [same, untaken]
    constructor
    · exact fun awaits => ⟨awaits.2, .inr ⟨awaits, nofun⟩⟩
    · rintro ⟨_, ⟨rfl, next, _⟩ | ⟨awaits, _⟩⟩
      · rw [takes, next] at untaken
        contradiction
      · exact awaits
  · have step := handles.awaitsFocus_iff afresh
    have published : (e'.published shown).AwaitsFocus ↔ e'.AwaitsFocus := Iff.rfl
    have still : (e'.published shown).Paused ↔ e'.Paused := Iff.rfl
    rw [turned, published, still, takes, next, step]
    simp
  · rw [ended]
    constructor
    · rintro ⟨_, _, _, ⟨⟩⟩
    · rintro ⟨⟨_, _, ⟨⟩⟩, _⟩

/-- Playback waits for focus exactly where it was interrupted. -/
theorem awaitsFocus_iff (blank : c.Blank) (interval : Duration) (actions : List (Action σ L)) :
    ((c.launch interval).after actions).world.engine.AwaitsFocus ↔
      (c.launch interval).Interrupted actions := by
  have launched := Sound.launch blank interval
  have engine := (launch_world blank interval).1
  induction actions using List.reverseRecOn with
  | nil =>
    rw [after_nil, engine]
    constructor
    · rintro ⟨_, _, _, ⟨⟩⟩
    · rintro ⟨_, _, split, _⟩
      cases List.append_eq_nil_iff.mp split.symm
      contradiction
  | append_singleton actions action ih =>
    have afresh : ((c.launch interval).after actions).world.engine.StartsAfresh := by
      refine launched.engine_after (P := Engine.StartsAfresh) ?_
        (fun _ _ afresh handles => handles.startsAfresh afresh) (fun _ afresh => afresh)
        (fun _ _ _ _ => rfl) actions
      rw [engine]
      nofun
    have before : _ ↔ _ := ih
    rw [interrupted_snoc, ← before, after_append]
    exact (launched.after actions).awaitsFocus_act afresh action

/-- When the engine learns that focus came back, it tries to resume the live session exactly if
playback was interrupted. Otherwise the engine notes that focus came back and does not wait for it any
more, and that is all that happens. -/
theorem gained_resumes_interrupted (blank : c.Blank) (interval : Duration)
    (actions : List (Action σ L))
    (next : ((c.launch interval).after actions).next? = some (.focus .gained)) :
    let s := (c.launch interval).after actions
    (s.TriesToResume ↔ (c.launch interval).Interrupted actions) ∧
    (¬ (c.launch interval).Interrupted actions → ∃ entries : List LogRecord,
      s.act .take = { s with
        mailbox := s.mailbox.tail
        world := { s.world with
          engine := { s.world.engine with focusPaused := false }
          trace := entries.map .logged ++ s.world.trace } }) := by
  intro s
  have sound : s.Sound := (Sound.launch blank interval).after actions
  rw [← awaitsFocus_iff blank interval actions]
  refine ⟨⟨fun tries => ?_, sound.triesToResume next⟩, sound.act_take_unawaited next⟩
  by_contra unawaited
  obtain ⟨entries, noted⟩ := sound.act_take_unawaited next unawaited
  have silent : (s.story [.take]).filterMap Effect.exchange? = [] := by
    have unchanged : (s.act .take).world.trace.filterMap Effect.exchange? =
        [] ++ s.world.trace.filterMap Effect.exchange? := by
      rw [noted]
      simp [List.filterMap_map, Function.comp_def, Effect.exchange?]
    exact sound.filterMap_story .take _ unchanged
  obtain ⟨session, _, resumption⟩ := tries
  rw [silent] at resumption
  exact resumption.ne_nil rfl

/-- The song plays when focus is lost for a while. Then it is sought in, it gets into a playlist, and
the repeat mode changes. -/
def called : List (Action Obliging Empty) :=
  [.command (.choose .song), .take, .ask, .answer 1 (.ok ⟨⟨1⟩, none⟩), .take,
    .focus .lostTransient, .take, .command (.seek .zero), .take,
    .command (.setPlaylist (.collection "Mix" [.song, .encore])), .take,
    .command (.setRepeatMode .item), .take]

/-- When focus comes back, the song plays again. -/
theorem gained_resumes_interrupted_called :
    let s := (obliged.launch .zero).after (called ++ [.focus .gained])
    s.next? = some (.focus .gained) ∧ s.world.engine.mode = .paused .song ⟨1⟩ ∧
    s.TriesToResume ∧ (s.act .take).world.engine.mode = .playing .song ⟨1⟩ := by
  have next : ((obliged.launch .zero).after (called ++ [.focus .gained])).next? =
      some (.focus .gained) := by rfl
  have mode : ((obliged.launch .zero).after (called ++ [.focus .gained])).world.engine.mode =
      .paused .song ⟨1⟩ := by decide +kernel
  have awaits : ((obliged.launch .zero).after
      (called ++ [.focus .gained])).world.engine.AwaitsFocus :=
    Engine.awaitsFocus_of_paused (by decide +kernel) mode
  have interrupted := (awaitsFocus_iff obliged_blank .zero _).mp awaits
  have resumes := (gained_resumes_interrupted obliged_blank .zero _ next).1.mpr interrupted
  exact ⟨next, mode, resumes, by decide +kernel⟩

end Core
end MediaPlayback
