import MediaPlayback.Proofs.Interruption
import MediaPlayback.Proofs.Track

/-! What is asked for while an item is being prepared. A request keeps what it was started with, unless
a message that the engine handles meanwhile asks for something else; then the last one counts. Once the
item is prepared, the request is done as it stands: first its session is moved, and then it is played
or kept paused. -/

namespace MediaPlayback

/-- What is meant to happen once an item is prepared. -/
structure Intent where
  seekTo : Option Duration
  autoplay : Bool
deriving DecidableEq, Repr

def PrepareRequest.intent (request : PrepareRequest) : Intent := ⟨request.seekTo, request.autoplay⟩

namespace Message

/-- Where a message asks to move. -/
def position? : Message → Option Duration
  | .seek position => some position
  | _ => none

/-- Whether playback is wanted after a message, given whether it was wanted before it. -/
def wanted (active : Item) (before : Bool) : Message → Bool
  | .play => true
  | .pause => false
  | .toggle => !before
  | .playInPlaylist item _ => before || active.Same item
  | _ => before

end Message

namespace Intent

/-- What is meant after a message that is handled while an item is being prepared. -/
def after (active : Item) (intent : Intent) (m : Message) : Intent where
  seekTo := m.position?.or intent.seekTo
  autoplay := m.wanted active intent.autoplay

/-- Of all that was asked for, the last position counts. -/
theorem foldl_seekTo (active : Item) (intent : Intent) (messages : List Message) :
    (messages.foldl (after active) intent).seekTo =
      (messages.filterMap Message.position?).getLast?.or intent.seekTo := by
  induction messages using List.reverseRecOn with
  | nil => rfl
  | append_singleton messages m ih =>
    rw [List.foldl_append, List.filterMap_append, List.getLast?_append]
    show m.position?.or _ = _
    rw [ih]
    cases position : m.position? <;> simp [position]

theorem foldl_autoplay (active : Item) (intent : Intent) (messages : List Message) :
    (messages.foldl (after active) intent).autoplay =
      messages.foldl (Message.wanted active) intent.autoplay := by
  induction messages generalizing intent with
  | nil => rfl
  | cons m rest ih => exact ih (intent.after active m)

end Intent

namespace Engine

/-- What is meant by a message that starts to prepare an item: to seek in it, to go on as before with
another one, or to play it. -/
def startIntent (e : Engine) : Message → Intent
  | .seek position => ⟨some position, false⟩
  | .setIndex _ => ⟨none, e.mode.wantsPlayback⟩
  | _ => ⟨none, true⟩

variable {e e' : Engine} {active : Item} {request : PrepareRequest}

theorem started_intent {item : Item} {autoplay : Bool} {seekTo : Option Duration}
    (preparing : (e.started item autoplay seekTo).mode = .preparing active request) :
    request.id = e.lastRequest + 1 ∧ request.intent = ⟨seekTo, autoplay⟩ := by
  cases preparing
  refine ⟨e.startRequest_id autoplay seekTo, ?_⟩
  rw [PrepareRequest.intent, startRequest_seekTo, startRequest_autoplay]

theorem Resumes.unprepared {item : Item} {session : SessionId} (resumes : e.Resumes item session e')
    (preparing : e'.mode = .preparing active request) : False := by
  cases resumes <;> contradiction

theorem Plays.intends (plays : e.Plays e') (preparing : e'.mode = .preparing active request) :
    (∃ old, e.mode = .preparing active old ∧ request.id = old.id ∧
      request.intent = { old.intent with autoplay := true }) ∨
    (request.id = e.lastRequest + 1 ∧ request.intent = ⟨none, true⟩) := by
  cases plays with
  | resumed _ resumes => exact (resumes.unprepared preparing).elim
  | @awaited item old before =>
    cases preparing
    exact .inl ⟨old, before, rfl, rfl⟩
  | started => exact .inr (started_intent preparing)
  | nothing idle => cases idle.symm.trans preparing
  | playing playing => cases playing.symm.trans preparing

theorem Pauses.intends (pauses : e.Pauses e') (preparing : e'.mode = .preparing active request) :
    ∃ old, e.mode = .preparing active old ∧ request.id = old.id ∧
      request.intent = { old.intent with autoplay := false } := by
  cases pauses with
  | paused | failed => contradiction
  | @held item old before =>
    cases preparing
    exact ⟨old, before, rfl, rfl⟩
  | kept _ unprepared => exact absurd preparing (unprepared _ _)

theorem navigated_intent {ahead : Bool}
    (preparing : (e.navigated ahead).mode = .preparing active request) :
    request.id = e.lastRequest + 1 ∧ request.intent = ⟨none, true⟩ := by
  unfold navigated at preparing
  dsimp only at preparing
  split at preparing
  case isTrue idle => cases idle.symm.trans preparing
  case isFalse =>
    split at preparing
    · exact started_intent preparing
    · contradiction

/-- What is being prepared after a message was being prepared before it, and the message had its say;
or the message started it. -/
theorem Handles.intends {m : Message} (handles : e.Handles m e')
    (preparing : e'.mode = .preparing active request) :
    (∃ old, e.mode = .preparing active old ∧ request.id = old.id ∧
      request.intent = old.intent.after active m) ∨
    (request.id = e.lastRequest + 1 ∧ request.intent = e.startIntent m) := by
  -- Most messages have nothing to say.
  have same : e.mode = .preparing active request → m.position? = none →
      m.wanted active request.autoplay = request.autoplay →
      ∃ old, e.mode = .preparing active old ∧ request.id = old.id ∧
        request.intent = old.intent.after active m := by
    intro before still unmoved
    refine ⟨request, before, rfl, ?_⟩
    rw [Intent.after, still, PrepareRequest.intent, unmoved]
    rfl
  cases handles with
  | play plays => exact plays.intends preparing
  | togglePlay unwanted plays =>
    rcases plays.intends preparing with ⟨old, before, id, intent⟩ | started
    · have paused : old.autoplay = false := by rwa [before] at unwanted
      exact .inl ⟨old, before, id, by rw [intent, Intent.after, Message.wanted,
        PrepareRequest.intent, paused]; rfl⟩
    · exact .inr started
  | pause pauses => exact .inl (pauses.intends preparing)
  | togglePause wanted pauses =>
    obtain ⟨old, before, id, intent⟩ := pauses.intends preparing
    have before : e.mode = .preparing active old := before
    have playing : old.autoplay = true := by rwa [before] at wanted
    exact .inl ⟨old, before, id, by rw [intent, Intent.after, Message.wanted,
      PrepareRequest.intent, playing]; rfl⟩
  | @seekAwaited position item old before =>
    cases preparing
    exact .inl ⟨old, before, rfl, rfl⟩
  | @reselectedAwaited item active' playlist old before path =>
    cases preparing
    exact .inl ⟨old, before, rfl, by simp [Intent.after, Message.wanted, Message.position?,
      PrepareRequest.intent, PrepareRequest.resume, path]⟩
  | @notChosen item _ other =>
    have before : e.mode = .preparing active request := preparing
    have unlike : ¬ active.Same item := by simpa [before, Mode.item?] using other
    exact .inl (same before rfl (by simp [Message.wanted, unlike]))
  | forward | backward | advanced => exact .inr (navigated_intent preparing)
  | @playItemInside _ index =>
    obtain ⟨cursor, pointed⟩ := e.exists_pointed index
    rw [pointed] at preparing
    exact .inr (started_intent preparing)
  | @chosen item playlist words =>
    obtain ⟨cursor, pointed⟩ := (e.withPlaylist playlist words).exists_pointedAt item
    rw [pointed] at preparing
    exact .inr (started_intent preparing)
  | playItemOutside | seekStarted | indexStarted | recreated => exact .inr (started_intent preparing)
  | setPlaylistAround =>
    rw [pointed_mode] at preparing
    exact .inl (same preparing rfl rfl)
  | reselected _ _ resumes | gainedPaused _ _ resumes => exact (resumes.unprepared preparing).elim
  | preparedBegun _ _ _ begins => cases begins <;> contradiction
  | lostPlaying playing pauses | lostTransientPlaying playing pauses =>
    obtain ⟨old, before, _⟩ := pauses.intends preparing
    cases playing.symm.trans before
  | seekLive live =>
    have before : e.mode = .preparing active request := preparing
    rw [before] at live
    contradiction
  | seekNothing idle => cases idle.symm.trans preparing
  | reselectedPlaying playing => cases playing.symm.trans preparing
  | reset | setPlaylistWithout | preparedFailed | preparedHeld | replayed | finished => contradiction
  | setRepeatMode | setShuffle | setPlaylist | indexOutside | indexOnly | snapshot | progress
  | preparedLate | outputStale | outputFailed | lost | lostTransient | gained | background
  | foreground | tick | shutdown => exact .inl (same preparing rfl rfl)

end Engine

namespace Core

variable {σ L : Type} [Surroundings σ L] {c : Core σ L} {active : Item} {request : PrepareRequest}

/-- What a run made of a request: a message started it, the engine awaits its answer ever since, and
of all messages that were handled since then the last one that asked for a position counts, and each
one that asked for playback or against it. -/
def Meant (c : Core σ L) (actions : List (Action σ L)) (active : Item) (request : PrepareRequest) :
    Prop :=
  ∃ earlier m later, actions = earlier ++ .take :: later ∧
    (c.after earlier).next? = some m ∧
    request.id = (c.after earlier).world.engine.lastRequest + 1 ∧
    (∀ between, between <+: later →
      (c.after (earlier ++ .take :: between)).world.engine.mode.awaited? =
        some (request.id, active)) ∧
    let start := (c.after earlier).world.engine.startIntent m
    let since := ((c.after earlier).act .take).taken later
    request.seekTo = (since.filterMap Message.position?).getLast?.or start.seekTo ∧
    request.autoplay = since.foldl (Message.wanted active) start.autoplay

/-- What is meant by a request goes on to be meant if it is still awaited, and what is handled
meanwhile has its say. -/
theorem Meant.snoc {actions : List (Action σ L)} {action : Action σ L} {old : PrepareRequest}
    (meant : c.Meant actions active old)
    (awaits : (c.after (actions ++ [action])).world.engine.mode.awaited? = some (request.id, active))
    (same : request.id = old.id)
    (intent : request.intent = ((c.after actions).takes action).foldl (Intent.after active) old.intent) :
    c.Meant (actions ++ [action]) active request := by
  obtain ⟨earlier, m, later, rfl, next, started, since, seekTo, autoplay⟩ := meant
  have taken : ((c.after earlier).act .take).taken (later ++ [action]) =
      ((c.after earlier).act .take).taken later ++
        (c.after (earlier ++ .take :: later)).takes action := by
    rw [Core.taken, along_append, after_append, after_cons]
    exact congrArg _ (List.append_nil _)
  have before : old.intent = (((c.after earlier).act .take).taken later).foldl (Intent.after active)
      ((c.after earlier).world.engine.startIntent m) := by
    unfold PrepareRequest.intent
    rw [seekTo, autoplay, ← Intent.foldl_seekTo active, ← Intent.foldl_autoplay active]
  rw [before, ← List.foldl_append, ← taken] at intent
  refine ⟨earlier, m, later ++ [action], by simp, next, same.trans started, ?_, ?_, ?_⟩
  · intro between initial
    rcases List.prefix_concat_iff.mp initial with rfl | initial
    · rw [← List.cons_append, ← List.append_assoc]
      exact awaits
    · rw [same]
      exact since between initial
  · rw [← Intent.foldl_seekTo active, ← intent]
    rfl
  · rw [← Intent.foldl_autoplay active, ← intent]
    rfl

/-- Whatever is being prepared is meant as the run has it. -/
theorem Sound.meant_after (sound : c.Sound) (idle : c.world.engine.mode = .idle)
    (actions : List (Action σ L))
    (preparing : (c.after actions).world.engine.mode = .preparing active request) :
    c.Meant actions active request := by
  induction actions using List.reverseRecOn generalizing active request with
  | nil => cases idle.symm.trans preparing
  | append_singleton actions action ih =>
    have awaits : (c.after (actions ++ [action])).world.engine.mode.awaited? =
        some (request.id, active) := by
      rw [preparing]
      rfl
    have prepares : ((c.after actions).act action).world.engine.mode = .preparing active request := by
      rw [after_append] at preparing
      exact preparing
    rcases act_engine (sound.after actions).settled action with
      ⟨untaken, same⟩ | ⟨m, e', shown, rfl, next, handles, turned⟩ | ⟨shown, ended⟩
    · rw [same] at prepares
      refine (ih prepares).snoc awaits rfl ?_
      rw [untaken]
      rfl
    · rw [turned] at prepares
      rcases handles.intends prepares with ⟨old, before, id, intent⟩ | ⟨id, intent⟩
      · refine (ih before).snoc awaits id ?_
        rw [takes, next]
        exact intent
      · refine ⟨actions, m, [], rfl, next, id, fun between initial => ?_, ?_, ?_⟩
        · rw [List.prefix_nil.mp initial]
          exact awaits
        · exact congrArg Intent.seekTo intent
        · exact congrArg Intent.autoplay intent
    · rw [ended] at prepares
      contradiction

end Core
/-- Whether a call is made to play something: it uses a session, or it asks for audio focus. -/
def HostCall.isForPlayback : HostCall → Bool
  | .requestFocus => true
  | call => call.used?.isSome

/-- A call that is made to play something, and what it was answered with. -/
def Effect.forPlayback? {L : Type} (effect : Effect L) : Option ((call : HostCall) × call.Result) :=
  effect.exchange?.filter (·.1.isForPlayback)

theorem Effect.forPlayback?_aside {L : Type} {effect : Effect L} (aside : effect.isAside) :
    effect.forPlayback? = none := by
  cases effect with
  | called call result => cases call <;> first | rfl | contradiction
  | _ => rfl

/-- Whether an effect is no more than that something is given back, noted or adopted. -/
def Effect.isUpkeep {L : Type} : Effect L → Bool
  | .called (.unload _) _ | .called .abandonFocus _ | .logged _ | .adopted _ => true
  | _ => false

namespace Engine

/-- What playing a session makes of an engine that has audio focus. -/
def begun (e : Engine) (item : Item) (session : SessionId) : Except HostError Unit → Engine
  | .ok _ => { e with mode := .playing item session, hasFocus := true }
  | .error _ => e.stopped

/-- The calls by which a prepared session begins to play, and what they make of the engine: audio focus
is asked for if it is not held, and the session is played if focus is held then. -/
inductive Beginning (e : Engine) (item : Item) (session : SessionId) :
    List ((call : HostCall) × call.Result) → Engine → Prop where
  | focused (held : e.hasFocus = true) (answer : Except HostError Unit) :
    Beginning e item session [⟨.play session, answer⟩] (e.begun item session answer)
  | granted (unfocused : e.hasFocus = false) (answer : Except HostError Unit) :
    Beginning e item session [⟨.requestFocus, .ok .granted⟩, ⟨.play session, answer⟩]
      (e.begun item session answer)
  | refused (unfocused : e.hasFocus = false) {answer : Except HostError FocusGrant}
    (refusal : answer ≠ .ok .granted) :
    Beginning e item session [⟨.requestFocus, answer⟩] { e with mode := .idle, live := none }

end Engine

/-- The call by which a session is moved to where it was asked to be moved. -/
inductive Seeking (session : SessionId) :
    Option Duration → List ((call : HostCall) × call.Result) → Prop where
  | nowhere : Seeking session none []
  | somewhere (position : Duration) (answer : Except HostError Unit) :
    Seeking session (some position) [⟨.seek session position, answer⟩]

theorem Seeking.reverse {session : SessionId} {seekTo : Option Duration}
    {sought : List ((call : HostCall) × call.Result)} (seeking : Seeking session seekTo sought) :
    sought.reverse = sought := by
  cases seeking <;> rfl

namespace World

variable {σ L : Type}

/-- The calls that were made to play something, with their answers, the last one first. -/
def playback (w : World σ L) : List ((call : HostCall) × call.Result) :=
  w.trace.filterMap Effect.forPlayback?

theorem Mutters.playback {w w' : World σ L} (mutters : w.Mutters w') : w'.playback = w.playback := by
  obtain ⟨effects, trace, asides⟩ := mutters.trace
  have none : effects.filterMap Effect.forPlayback? = [] :=
    List.filterMap_eq_nil_iff.mpr fun effect mem => Effect.forPlayback?_aside (asides effect mem)
  rw [World.playback, trace, List.filterMap_append, none]
  rfl

/-- From one world to another, things were given back, noted or adopted, and that was all. -/
def Upkeeps (w w' : World σ L) : Prop :=
  ∃ effects, w'.trace = effects ++ w.trace ∧ ∀ effect ∈ effects, effect.isUpkeep

theorem Upkeeps.of {w w' : World σ L} (effects : List (Effect L))
    (trace : w'.trace = effects ++ w.trace) (upkeep : effects.all (·.isUpkeep)) : w.Upkeeps w' :=
  ⟨effects, trace, List.all_eq_true.mp upkeep⟩

theorem Upkeeps.refl (w : World σ L) : w.Upkeeps w := .of [] rfl rfl

theorem Upkeeps.trans {w w' w'' : World σ L} (first : w.Upkeeps w') (second : w'.Upkeeps w'') :
    w.Upkeeps w'' := by
  obtain ⟨early, trace, upkeep⟩ := first
  obtain ⟨late, trace', upkeep'⟩ := second
  exact ⟨late ++ early, by rw [trace', trace, List.append_assoc],
    List.forall_mem_append.mpr ⟨upkeep', upkeep⟩⟩

/-- What upkeep has no part in is as it was. -/
theorem Upkeeps.filterMap {α : Type} {w w' : World σ L} (upkeeps : w.Upkeeps w')
    {f : Effect L → Option α} (other : ∀ effect, effect.isUpkeep → f effect = none) :
    w'.trace.filterMap f = w.trace.filterMap f := by
  obtain ⟨effects, trace, upkeep⟩ := upkeeps
  have none : effects.filterMap f = [] :=
    List.filterMap_eq_nil_iff.mpr fun effect mem => other effect (upkeep effect mem)
  rw [trace, List.filterMap_append, none]
  rfl

theorem Upkeeps.playback {w w' : World σ L} (upkeeps : w.Upkeeps w') : w'.playback = w.playback := by
  refine upkeeps.filterMap fun effect upkeep => ?_
  cases effect with
  | called call result => cases call <;> first | rfl | contradiction
  | _ => rfl

variable [Surroundings σ L]

theorem destroyOutput_upkeeps (w : World σ L) (span : Option String) :
    w.Upkeeps (w.destroyOutput span) := by
  unfold destroyOutput
  split
  case h_1 => exact .refl w
  case h_2 session _ =>
    unfold unload
    obtain ⟨result, outside, h⟩ :=
      exists_call { w with engine := { w.engine with live := none } } (.unload session)
    rw [h]
    cases result with
    | ok => exact .of [_, _] rfl rfl
    | error => exact .of [_, _, _] rfl rfl

theorem adopt_upkeeps (w : World σ L) (session : SessionId) : w.Upkeeps (w.adopt session) := by
  unfold adopt
  split
  · exact .refl w
  · exact (w.destroyOutput_upkeeps none).trans (.of [_] rfl rfl)

theorem releaseFocus_upkeeps (w : World σ L) : w.Upkeeps w.releaseFocus := by
  unfold releaseFocus
  split
  · obtain ⟨result, outside, h⟩ :=
      exists_call { w with engine := { w.engine with hasFocus := false } } .abandonFocus
    rw [h]
    cases result with
    | ok => exact .of [_] rfl rfl
    | error => exact .of [_, _] rfl rfl
  · exact .refl w

theorem stop_upkeeps (w : World σ L) : w.Upkeeps w.stop := by
  have idle : w.Upkeeps ((w.setMode .idle).setFocusPaused false) := .of [] rfl rfl
  exact (idle.trans (destroyOutput_upkeeps _ none)).trans (releaseFocus_upkeeps _)

@[simp] theorem fail_playback (w : World σ L) (item : Item) (failure : PlaybackError) :
    (w.fail item failure).playback = w.playback := by
  unfold fail
  rw [(stop_upkeeps _).playback]
  rfl

/-- Plays a session, once audio focus is held, or gives it up. -/
def playOn (w : World σ L) (item : Item) (session : SessionId) : World σ L :=
  match w.playSession session with
  | (.ok _, w) => w.setMode (.playing item session)
  | (.error failure, w) => w.fail item failure

theorem begin_of_acquired {w w' : World σ L} (acquired : w.acquireFocus = (true, w')) (item : Item)
    (session : SessionId) : w.begin item session = w'.playOn item session := by
  rw [begin, acquired]
  rfl

theorem playOn_begun (w : World σ L) (item : Item) (session : SessionId) {e : Engine}
    (engine : w.engine = { e with hasFocus := true }) : ∃ answer,
    (w.playOn item session).playback = ⟨.play session, answer⟩ :: w.playback ∧
    (w.playOn item session).engine = e.begun item session answer := by
  obtain ⟨answer, outside, called⟩ := w.exists_call (.play session)
  refine ⟨answer, ?_⟩
  unfold playOn playSession
  rw [called]
  cases answer with
  | ok =>
    refine ⟨rfl, ?_⟩
    show { w.engine with mode := .playing item session } = _
    rw [engine]
    rfl
  | error =>
    dsimp only [Except.mapError]
    rw [fail_playback, fail_engine]
    refine ⟨rfl, ?_⟩
    show w.engine.stopped = _
    rw [engine]
    rfl

/-- A prepared session begins to play with audio focus, or it is given up. -/
theorem begin_beginning (w : World σ L) (item : Item) (session : SessionId) : ∃ begun,
    (w.begin item session).playback = begun.reverse ++ w.playback ∧
    w.engine.Beginning item session begun (w.begin item session).engine := by
  cases focus : w.engine.hasFocus with
  | true =>
    obtain ⟨answer, playback, engine⟩ := w.playOn_begun item session (e := w.engine) (by
      rw [← focus])
    rw [begin_of_acquired (if_pos focus), engine]
    exact ⟨[⟨.play session, answer⟩], playback, .focused focus answer⟩
  | false =>
    have free : ¬ w.engine.hasFocus := by simp [focus]
    obtain ⟨answer, outside, asked⟩ := w.exists_call .requestFocus
    have acquire : w.acquireFocus = _ := if_neg free
    rw [asked] at acquire
    have refused : ∀ {w' : World σ L}, answer ≠ .ok .granted → w.acquireFocus = (false, w') →
        w'.playback = ⟨.requestFocus, answer⟩ :: w.playback → w'.engine = w.engine →
        ∃ begun, (w.begin item session).playback = begun.reverse ++ w.playback ∧
          w.engine.Beginning item session begun (w.begin item session).engine := by
      intro w' refusal acquired playback engine
      refine ⟨[⟨.requestFocus, answer⟩], ?_, ?_⟩
      · rw [begin, acquired]
        exact (destroyOutput_upkeeps _ none).playback.trans playback
      · rw [begin, acquired, setMode_engine, destroyOutput_engine, denyFocus_engine, engine]
        exact .refused focus refusal
    rcases answer with e | (_ | _)
    · exact refused nofun acquire rfl rfl
    · obtain ⟨w', acquired, playback, engine⟩ : ∃ w', w.acquireFocus = (true, w') ∧
          w'.playback = ⟨.requestFocus, .ok .granted⟩ :: w.playback ∧
          w'.engine = { w.engine with hasFocus := true } := ⟨_, acquire, rfl, rfl⟩
      obtain ⟨answer, played, begun⟩ := w'.playOn_begun item session engine
      rw [begin_of_acquired acquired, begun, played, playback]
      exact ⟨_, rfl, .granted focus answer⟩
    · exact refused nofun acquire rfl rfl

theorem seekPrepared_seeking (w : World σ L) (session : SessionId) (seekTo : Option Duration) :
    ∃ sought, (w.seekPrepared session seekTo).playback = sought ++ w.playback ∧
      Seeking session seekTo sought := by
  cases seekTo with
  | none => exact ⟨[], rfl, .nowhere⟩
  | some position =>
    obtain ⟨answer, outside, called⟩ := w.exists_call (.seek session position)
    refine ⟨[⟨.seek session position, answer⟩], ?_, .somewhere position answer⟩
    unfold seekPrepared seekSession
    dsimp only
    rw [called]
    cases answer <;> rfl

/-- A prepared session is adopted without a call for playback. Then it is moved, and played or kept
paused. -/
theorem settlePrepared_adopted (w : World σ L) (request : PrepareRequest) (item : Item)
    (prepared : PreparedSession) : ∃ adopted : World σ L,
    w.Upkeeps adopted ∧
    adopted.engine = { w.engine with mode := .idle, live := some prepared.session } ∧
    w.settlePrepared request item (.ok prepared) =
      let ready := adopted.seekPrepared prepared.session request.seekTo
      if request.autoplay then ready.begin item prepared.session
      else ready.setMode (.paused item prepared.session) := by
  have engine := (w.setMode .idle).adopt_engine prepared.session
  have upkeeps : w.Upkeeps ((w.setMode .idle).adopt prepared.session) :=
    (w.setMode .idle).adopt_upkeeps prepared.session
  unfold settlePrepared
  dsimp only
  generalize (w.setMode .idle).adopt prepared.session = adopted at engine upkeeps ⊢
  cases prepared.duration with
  | none => exact ⟨adopted, upkeeps, engine, rfl⟩
  | some d =>
    exact ⟨{ adopted with catalog := adopted.catalog.recordDuration item d }, upkeeps, engine, rfl⟩

/-- What is prepared is moved and then played or kept paused, as its request has it. -/
theorem settlePrepared_playback (w : World σ L) (request : PrepareRequest) (item : Item)
    (prepared : PreparedSession) :
    let settled := w.settlePrepared request item (.ok prepared)
    ∃ sought begun, settled.playback = (sought ++ begun).reverse ++ w.playback ∧
      Seeking prepared.session request.seekTo sought ∧
      (request.autoplay = true → Engine.Beginning { w.engine with
          mode := .idle
          live := some prepared.session } item prepared.session begun settled.engine) ∧
      (request.autoplay = false → begun = [] ∧ settled.engine = { w.engine with
          mode := .paused item prepared.session
          live := some prepared.session }) := by
  obtain ⟨adopted, upkeeps, engine, settles⟩ := w.settlePrepared_adopted request item prepared
  have quiet := upkeeps.playback
  obtain ⟨sought, moved, seeking⟩ := adopted.seekPrepared_seeking prepared.session request.seekTo
  have unmoved := adopted.seekPrepared_engine prepared.session request.seekTo
  rw [settles]
  dsimp only
  generalize adopted.seekPrepared prepared.session request.seekTo = ready at moved unmoved ⊢
  cases auto : request.autoplay with
  | true =>
    obtain ⟨begun, played, beginning⟩ := ready.begin_beginning item prepared.session
    refine ⟨sought, begun, ?_, seeking, fun _ => ?_, nofun⟩
    · rw [if_pos rfl, played, moved, quiet, List.reverse_append, seeking.reverse,
        List.append_assoc]
    · rw [unmoved, engine] at beginning
      exact beginning
  | false =>
    refine ⟨sought, [], ?_, seeking, nofun, fun _ => ⟨rfl, ?_⟩⟩
    · rw [if_neg Bool.false_ne_true, List.append_nil, seeking.reverse, ← quiet]
      exact moved
    · rw [if_neg Bool.false_ne_true, setMode_engine, unmoved, engine]

end World

namespace Core

variable {σ L : Type} [Surroundings σ L] {c : Core σ L} {active : Item} {request : PrepareRequest}

/-- When the engine takes the next message, a session that was prepared for a request is taken up: it
is moved if the request asks for it, and whatever comes of that, it then begins to play if the request
asks for it, and is kept paused otherwise. -/
def TakesUp (c : Core σ L) (item : Item) (request : PrepareRequest) (session : SessionId) : Prop :=
  ∃ sought begun e' shown,
    (c.story [.take]).filterMap Effect.forPlayback? = sought ++ begun ∧
    Seeking session request.seekTo sought ∧
    (request.autoplay = true → Engine.Beginning { c.world.engine with
        mode := .idle
        live := some session } item session begun e') ∧
    (request.autoplay = false → begun = [] ∧ e' = { c.world.engine with
        mode := .paused item session
        live := some session }) ∧
    (c.act .take).world.engine = e'.published shown

theorem Sound.takesUp (sound : c.Sound) {item : Item} {prepared : PreparedSession}
    (preparing : c.world.engine.mode = .preparing active request)
    (next : c.next? = some (.prepared request.id item (.ok prepared))) :
    c.TakesUp item request prepared.session := by
  let m : Message := .prepared request.id item (.ok prepared)
  let noted := c.world.log .engine .trace "Engine command" [("command", m.name)]
  have settles : noted.handle m = noted.settlePrepared request item (.ok prepared) :=
    noted.onPrepared_of_awaited preparing item (.ok prepared)
  obtain ⟨sought, begun, playback, seeking, begins, holds⟩ :=
    noted.settlePrepared_playback request item prepared
  rw [← settles] at playback begins holds
  obtain ⟨shown, published⟩ := (noted.handle m).publish_engine
  have quiet : (noted.handle m).publish.playback = (noted.handle m).playback :=
    (noted.handle m).publish_mutters.playback
  obtain ⟨_, _, turned⟩ := act_take next nofun
  refine ⟨sought, begun, (noted.handle m).engine, shown, ?_, seeking, begins, holds, ?_⟩
  · rw [← List.reverse_reverse (sought ++ begun)]
    refine sound.filterMap_story .take _ ?_
    rw [turned]
    exact quiet.trans playback
  · rw [turned]
    exact published

/-- What is asked for while an item is being prepared is kept, and the last request counts: where to
move, and whether to play. When the session comes it is moved there by one call, or by none if that
was not asked for, and whatever comes of that, it is played with audio focus if it is to be played, and
kept paused otherwise without any further call. -/
theorem intents_kept (blank : c.Blank) (interval : Duration) (actions : List (Action σ L))
    (preparing : ((c.launch interval).after actions).world.engine.mode = .preparing active request) :
    let launched := c.launch interval
    let s := launched.after actions
    launched.Meant actions active request ∧
    ∀ item prepared, s.next? = some (.prepared request.id item (.ok prepared)) →
      item = active ∧ s.TakesUp item request prepared.session := by
  intro launched s
  have sound := Sound.launch blank interval
  have idle : launched.world.engine.mode = .idle := by rw [(launch_world blank interval).1]
  refine ⟨sound.meant_after idle actions preparing, fun item prepared next => ⟨?_, ?_⟩⟩
  · exact (sound.after actions).answers_active (due_of_next next) preparing rfl
  · exact (sound.after actions).takesUp preparing next

/-- While the song is being prepared, it is sought in, paused, played on and sought in again. -/
def rethought : List (Action Obliging Empty) :=
  [.command (.choose .song), .take, .command (.seek ⟨3⟩), .take, .command .pause, .take,
    .command ⟨.toggle, rfl⟩, .take, .command (.seek ⟨7⟩), .take, .ask,
    .answer 1 (.ok ⟨⟨1⟩, none⟩)]

/-- The song is moved to the place that was asked for last, and plays. -/
theorem intents_kept_rethought :
    let s := (obliged.launch .zero).after rethought
    s.world.engine.mode = .preparing .song ⟨1, true, some ⟨7⟩, .stopped⟩ ∧
    (obliged.launch .zero).Meant rethought .song ⟨1, true, some ⟨7⟩, .stopped⟩ ∧
    s.TakesUp .song ⟨1, true, some ⟨7⟩, .stopped⟩ ⟨1⟩ ∧
    (s.act .take).world.engine.mode = .playing .song ⟨1⟩ := by
  have preparing : ((obliged.launch .zero).after rethought).world.engine.mode =
      .preparing .song ⟨1, true, some ⟨7⟩, .stopped⟩ := by decide +kernel
  have next : ((obliged.launch .zero).after rethought).next? =
      some (.prepared 1 .song (.ok ⟨⟨1⟩, none⟩)) := by rfl
  obtain ⟨meant, answers⟩ := intents_kept obliged_blank .zero rethought preparing
  exact ⟨preparing, meant, (answers .song ⟨⟨1⟩, none⟩ next).2, by decide +kernel⟩

end Core
end MediaPlayback
