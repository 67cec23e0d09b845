import MediaPlayback.Proofs.Engine.Account
import MediaPlayback.Proofs.Engine.Outcome

/-! Every operation of a world takes the engine's holding along a lawful course: `World.Leads` ties
the engine's own fields to the effects that the operation leaves in the trace. -/

namespace MediaPlayback

/-- The request that is awaited, and its item. -/
def Mode.awaited? : Mode → Option (Nat × Item)
  | .preparing item request => some (request.id, item)
  | _ => none

/-- What the engine has of the host's, with a session that was handed to it. -/
def Engine.holding (e : Engine) (hand : Option SessionId) : Holding where
  hand := hand
  live := e.live
  focused := e.hasFocus
  requests := e.lastRequest
  awaited := e.mode.awaited?

theorem Engine.tally_holding {L : Type} (e : Engine) (hand : Option SessionId) (session : SessionId)
    (trace : List (Effect L)) : (e.holding hand).tally session trace =
      (e.holding none).tally session trace + if hand = some session then 1 else 0 := rfl

theorem Engine.tally_holding_none {L : Type} (e : Engine) (session : SessionId)
    (trace : List (Effect L)) : (e.holding none).tally session trace =
      Effect.unloadsIn session trace + if e.live = some session then 1 else 0 := rfl

namespace World

variable {σ L : Type}

/-- From one world to another nothing happened that the engine's holding is about. -/
structure Mutters (w w' : World σ L) : Prop where
  trace : ∃ effects, w'.trace = effects ++ w.trace ∧ ∀ effect ∈ effects, effect.isAside
  tasks : w'.tasks = w.tasks

/-- From one world to another a lawful course led, and its starts are the tasks that were added. -/
def Passes (h : Holding) (w : World σ L) (h' : Holding) (w' : World σ L) : Prop :=
  ∃ effects, w'.trace = effects ++ w.trace ∧
    w'.tasks = w.tasks ++ (Effect.startsIn effects).reverse ∧ h.Comes effects h'

/-- A lawful course led from one world to another and from one engine's holding to the other's. -/
def Leads (hand : Option SessionId) (w : World σ L) (hand' : Option SessionId) (w' : World σ L) :
    Prop :=
  Passes (w.engine.holding hand) w (w'.engine.holding hand') w'

variable {w w' w'' : World σ L} {h h' h'' : Holding} {hand hand' hand'' : Option SessionId}

theorem Mutters.refl (w : World σ L) : w.Mutters w := ⟨⟨[], rfl, by simp⟩, rfl⟩

theorem Mutters.trans (first : w.Mutters w') (second : w'.Mutters w'') : w.Mutters w'' := by
  obtain ⟨⟨early, trace, asides⟩, tasks⟩ := first
  obtain ⟨⟨late, trace', asides'⟩, tasks'⟩ := second
  refine ⟨⟨late ++ early, by rw [trace', trace, List.append_assoc], ?_⟩, tasks'.trans tasks⟩
  intro effect mem
  rcases List.mem_append.mp mem with mem | mem
  · exact asides' effect mem
  · exact asides effect mem

theorem Mutters.of (effects : List (Effect L)) (trace : w'.trace = effects ++ w.trace)
    (asides : effects.all (·.isAside)) (tasks : w'.tasks = w.tasks) : w.Mutters w' :=
  ⟨⟨effects, trace, List.all_eq_true.mp asides⟩, tasks⟩

theorem Passes.refl (h : Holding) (w : World σ L) : Passes h w h w :=
  ⟨[], rfl, by simp [Effect.startsIn], .refl⟩

theorem Passes.trans (first : Passes h w h' w') (second : Passes h' w' h'' w'') :
    Passes h w h'' w'' := by
  obtain ⟨early, trace, tasks, comes⟩ := first
  obtain ⟨late, trace', tasks', comes'⟩ := second
  refine ⟨late ++ early, by rw [trace', trace, List.append_assoc], ?_, comes.trans comes'⟩
  rw [tasks', tasks, Effect.startsIn_append, List.reverse_append, List.append_assoc]

theorem Passes.mutters (mutters : w.Mutters w') (h : Holding) : Passes h w h w' := by
  obtain ⟨⟨effects, trace, asides⟩, tasks⟩ := mutters
  have starts : Effect.startsIn (effects ++ []) = [] := Effect.startsIn_asides asides
  rw [List.append_nil] at starts
  exact ⟨effects, trace, by rw [tasks, starts]; simp, .asides h asides⟩

theorem Passes.forgets (passes : Passes h w h' w') : Passes h w { h' with awaited := none } w' := by
  obtain ⟨effects, trace, tasks, comes⟩ := passes
  exact ⟨effects, trace, tasks, comes.forgets⟩

theorem Mutters.startsIn (mutters : w.Mutters w') :
    Effect.startsIn w'.trace = Effect.startsIn w.trace := by
  obtain ⟨effects, trace, asides⟩ := mutters.trace
  rw [trace, Effect.startsIn_asides asides]

theorem Mutters.unloadsIn (mutters : w.Mutters w') (session : SessionId) :
    Effect.unloadsIn session w'.trace = Effect.unloadsIn session w.trace := by
  obtain ⟨effects, trace, asides⟩ := mutters.trace
  rw [trace, Effect.unloadsIn_asides session asides]

/-- Who adds no task starts nothing. -/
theorem Passes.startsIn (passes : Passes h w h' w') (tasks : w'.tasks = w.tasks) :
    Effect.startsIn w'.trace = Effect.startsIn w.trace := by
  obtain ⟨effects, trace, added, _⟩ := passes
  have none_added := List.self_eq_append_right.mp (tasks.symm.trans added)
  rw [trace, Effect.startsIn_append, List.reverse_eq_nil_iff.mp none_added]
  rfl

theorem Passes.accounts (passes : Passes h w h' w') (accounts : h.Accounts w.trace) :
    h'.Accounts w'.trace := by
  obtain ⟨effects, trace, _, comes⟩ := passes
  rw [trace]
  exact accounts.comes comes

theorem Passes.owns (passes : Passes h w h' w') (owns : h.Owns w.trace) : h'.Owns w'.trace := by
  obtain ⟨effects, trace, _, comes⟩ := passes
  rw [trace]
  exact owns.comes comes

/-- A lawful course moves sessions from one place to another. -/
theorem Passes.tally (passes : Passes h w h' w') (session : SessionId) :
    h'.tally session w'.trace = h.tally session w.trace := by
  obtain ⟨effects, trace, _, comes⟩ := passes
  rw [trace]
  exact Holding.tally_comes comes session

theorem Leads.refl (w : World σ L) : Leads hand w hand w :=
  Passes.refl _ w

theorem Leads.trans (first : Leads hand w hand' w') (second : Leads hand' w' hand'' w'') :
    Leads hand w hand'' w'' :=
  Passes.trans first second

theorem Leads.mutters (mutters : w.Mutters w')
    (same : w'.engine.holding hand = w.engine.holding hand) : Leads hand w hand w' := by
  unfold Leads
  rw [same]
  exact Passes.mutters mutters _

/-- The engine may turn to another mode unless it begins to await something. -/
theorem Leads.setMode (w : World σ L) {mode : Mode}
    (awaited : mode.awaited? = none ∨ mode.awaited? = w.engine.mode.awaited?) :
    Leads hand w hand (w.setMode mode) := by
  have mutters : w.Mutters (w.setMode mode) := .of [] rfl rfl rfl
  have passes := Passes.mutters mutters (w.engine.holding hand)
  unfold Leads
  have moved : (w.setMode mode).engine.holding hand =
      { w.engine.holding hand with awaited := mode.awaited? } := rfl
  rw [moved]
  rcases awaited with none | same
  · rw [none]
    exact passes.forgets
  · rw [same]
    exact passes

theorem log_mutters (w : World σ L) (source : LogSource) (level : LogLevel) (message : String)
    (fields : List (String × String)) : w.Mutters (w.log source level message fields) :=
  .of [_] rfl rfl rfl

theorem logWithin_mutters (w : World σ L) (span : Option String) (source : LogSource)
    (level : LogLevel) (message : String) (fields : List (String × String)) :
    w.Mutters (w.logWithin span source level message fields) :=
  .of [_] rfl rfl rfl

theorem emit_mutters (w : World σ L) (event : PlaybackEvent) : w.Mutters (w.emit event) :=
  .of [_] rfl rfl rfl

theorem moveCursor_mutters (w : World σ L) (index : Nat) : w.Mutters (w.moveCursor index) := by
  unfold moveCursor
  split
  · exact .of [] rfl rfl rfl
  · exact w.log_mutters ..

theorem recordTold_mutters (notice : Notice) (w : World σ L) (told : Told L Command) :
    w.Mutters (recordTold notice w told) := by
  unfold recordTold
  dsimp only
  split
  · exact .of [_] rfl rfl rfl
  · exact .of [_, _] rfl rfl rfl

variable [Surroundings σ L]

theorem tell_mutters (w : World σ L) (notice : Notice) : w.Mutters (w.tell notice) := by
  have fold : ∀ (told : List (Told L Command)) (w : World σ L),
      w.Mutters (told.foldl (recordTold notice) w) := by
    intro told
    induction told with
    | nil => exact fun w => .refl w
    | cons first rest ih => exact fun w => (w.recordTold_mutters notice first).trans (ih _)
  unfold tell
  refine Mutters.trans ?_ (fold _ _)
  exact .of [] rfl rfl rfl

theorem acquireWakeLock_mutters (w : World σ L) : w.Mutters w.acquireWakeLock := by
  unfold acquireWakeLock
  split
  case isTrue => exact .refl w
  case isFalse =>
    obtain ⟨result, outside, h⟩ :=
      w.exists_call (.acquireWakeLock wakeLockTag w.settings.wakeLockTimeout)
    rw [h]
    cases result <;> exact .of [_, _] rfl rfl rfl

theorem releaseWakeLock_mutters (w : World σ L) : w.Mutters w.releaseWakeLock := by
  unfold releaseWakeLock
  split
  case isTrue =>
    obtain ⟨result, outside, h⟩ :=
      exists_call { w with engine := { w.engine with holdsWakeLock := false } }
        (.releaseWakeLock wakeLockTag)
    rw [h]
    cases result with
    | ok => exact .of [_] rfl rfl rfl
    | error => exact .of [_, _] rfl rfl rfl
  case isFalse => exact .refl w

theorem screenOn_mutters (w : World σ L) : w.Mutters w.screenOn.2 := by
  obtain ⟨result, outside, h⟩ := w.exists_call .isScreenOn
  unfold screenOn
  rw [h]
  cases result with
  | ok => exact .of [_] rfl rfl rfl
  | error => exact .of [_, _] rfl rfl rfl

theorem hideNotification_mutters (w : World σ L) : w.Mutters w.hideNotification := by
  unfold hideNotification
  split
  case isTrue =>
    obtain ⟨result, outside, h⟩ := w.exists_call (.cancelNotification w.notificationId)
    rw [h]
    cases result with
    | ok => exact .of [_] rfl rfl rfl
    | error => exact .of [_, _] rfl rfl rfl
  case isFalse => exact .refl w

theorem showNotification_mutters (w : World σ L) (content : NotificationContent)
    (state : PlaybackState) : w.Mutters (w.showNotification content state) := by
  obtain ⟨result, outside, h⟩ := w.exists_call (.showNotification w.notificationId content)
  unfold showNotification
  rw [h]
  cases result <;> exact .of [_, _] rfl rfl rfl

theorem refreshNotification_mutters (w : World σ L) : w.Mutters w.refreshNotification := by
  unfold refreshNotification present
  dsimp only
  split
  · split
    · exact w.showNotification_mutters _ _
    · exact w.hideNotification_mutters
  · exact w.hideNotification_mutters

theorem publishItem_mutters (w : World σ L) : w.Mutters w.publishItem := by
  unfold publishItem
  dsimp only
  split
  case isTrue => exact .refl w
  case isFalse =>
    refine Mutters.trans ?_ (emit_mutters _ _)
    refine Mutters.trans ?_ (tell_mutters _ _)
    exact .of [_] rfl rfl rfl

theorem publishState_mutters (w : World σ L) (state : PlaybackState) :
    w.Mutters (w.publishState state) :=
  (w.log_mutters ..).trans ((tell_mutters _ _).trans (emit_mutters _ _))

theorem publish_mutters (w : World σ L) : w.Mutters w.publish := by
  unfold publish
  dsimp only
  refine w.publishItem_mutters.trans ?_
  split
  case isTrue =>
    split
    · exact refreshNotification_mutters _
    · exact .refl _
  case isFalse =>
    refine Mutters.trans ?_ (publishState_mutters _ _)
    refine Mutters.trans ?_ (refreshNotification_mutters _)
    split
    · refine Mutters.trans ?_ (releaseWakeLock_mutters _)
      exact .of [] rfl rfl rfl
    · exact .of [] rfl rfl rfl

theorem publish_leads (w : World σ L) : Leads hand w hand w.publish := by
  obtain ⟨shown, published⟩ := w.publish_engine
  exact .mutters w.publish_mutters (by rw [published]; rfl)

theorem acquireFocus_leads (w : World σ L) : Leads hand w hand w.acquireFocus.2 := by
  unfold acquireFocus
  split
  case isTrue => exact .refl w
  case isFalse free =>
    have free : (w.engine.holding hand).focused = false := by simpa [Engine.holding] using free
    obtain ⟨result, outside, h⟩ := w.exists_call .requestFocus
    rw [h]
    rcases result with e | (_ | _)
    · have refused : Holding.Takes _ (.called (L := L) .requestFocus (.error e)) _ :=
        .refused free nofun
      exact ⟨[_, _], rfl, (List.append_nil _).symm,
        (Holding.Comes.refl.step refused).step (.aside rfl)⟩
    · exact ⟨[_, _], rfl, (List.append_nil _).symm,
        (Holding.Comes.refl.step (.granted free)).step (.aside rfl)⟩
    · have refused : Holding.Takes _ (.called (L := L) .requestFocus (.ok .denied)) _ :=
        .refused free nofun
      exact ⟨[_, _], rfl, (List.append_nil _).symm,
        (Holding.Comes.refl.step refused).step (.aside rfl)⟩

theorem releaseFocus_leads (w : World σ L) : Leads hand w hand w.releaseFocus := by
  unfold releaseFocus
  split
  case isTrue held =>
    have held : (w.engine.holding hand).focused = true := held
    obtain ⟨result, outside, h⟩ :=
      exists_call { w with engine := { w.engine with hasFocus := false } } .abandonFocus
    rw [h]
    cases result with
    | ok =>
      exact ⟨[_], rfl, (List.append_nil _).symm, Holding.Comes.refl.step (.abandoned held)⟩
    | error =>
      exact ⟨[_, _], rfl, (List.append_nil _).symm,
        (Holding.Comes.refl.step (.abandoned held)).step (.aside rfl)⟩
  case isFalse => exact .refl w

/-- A session may be unloaded whatever comes of it. -/
theorem unload_passes (w : World σ L) (span : Option String) {session : SessionId}
    (takes : ∀ result, h.Takes (L := L) (.called (.unload session) result) h') :
    Passes h w h' (w.unload span session) := by
  obtain ⟨result, outside, called⟩ := w.exists_call (.unload session)
  unfold unload
  rw [called]
  cases result with
  | ok => exact ⟨[_], rfl, (List.append_nil _).symm, Holding.Comes.refl.step (takes _)⟩
  | error =>
    exact ⟨[_, _], rfl, (List.append_nil _).symm,
      (Holding.Comes.refl.step (takes _)).step (.aside rfl)⟩

theorem destroyOutput_passes (w : World σ L) (span : Option String)
    (live : h.live = w.engine.live) :
    Passes h w { h with live := none } (w.destroyOutput span) := by
  unfold destroyOutput
  split
  case h_1 absent =>
    have same : { h with live := none } = h := by rw [← live.trans absent]
    rw [same]
    exact .refl h w
  case h_2 session present =>
    have passes := unload_passes { w with engine := { w.engine with live := none } } span
      fun _ => Holding.Takes.unloaded (h := h) (live.trans present)
    have logged : Mutters (unload { w with engine := { w.engine with live := none } } span session)
        _ := logWithin_mutters _ span .resources .debug "Output primitive destroyed"
          [("session", session.text)]
    exact passes.trans (.mutters logged _)

theorem destroyOutput_leads (w : World σ L) (span : Option String) :
    Leads hand w hand (w.destroyOutput span) := by
  have passes := w.destroyOutput_passes span (h := w.engine.holding hand) rfl
  unfold Leads
  rw [destroyOutput_engine]
  exact passes

theorem adopt_leads (w : World σ L) (session : SessionId) (free : w.engine.live = none) :
    Leads (some session) w none (w.adopt session) := by
  have other : w.engine.live ≠ some session := by simp [free]
  unfold adopt
  rw [if_neg other]
  unfold destroyOutput
  rw [free]
  exact ⟨[_], rfl, (List.append_nil _).symm, Holding.Comes.refl.step (.adopted rfl free)⟩

/-- A session that comes too late is unloaded, unless it is the live one. -/
theorem discard_leads (w : World σ L) (session : SessionId) :
    Leads (some session) w (if w.engine.live = some session then some session else none)
      (w.discard session) := by
  unfold discard
  split
  case isTrue => exact .refl w
  case isFalse other =>
    unfold Leads
    rw [unload_engine]
    exact w.unload_passes none fun _ =>
      Holding.Takes.discarded (h := w.engine.holding (some session)) rfl other

section

variable {session : SessionId}

theorem playSession_leads (w : World σ L) (live : w.engine.live = some session) :
    Leads hand w hand (w.playSession session).2 :=
  ⟨[_], rfl, (List.append_nil _).symm, Holding.Comes.refl.step (.used rfl live)⟩

theorem pauseSession_leads (w : World σ L) (live : w.engine.live = some session) :
    Leads hand w hand (w.pauseSession session).2 :=
  ⟨[_], rfl, (List.append_nil _).symm, Holding.Comes.refl.step (.used rfl live)⟩

theorem seekSession_leads (w : World σ L) (position : Duration)
    (live : w.engine.live = some session) :
    Leads hand w hand (w.seekSession session position).2 :=
  ⟨[_], rfl, (List.append_nil _).symm, Holding.Comes.refl.step (.used rfl live)⟩

theorem sessionPosition_leads (w : World σ L) (live : w.engine.live = some session) :
    Leads hand w hand (w.sessionPosition session).2 := by
  obtain ⟨result, outside, h⟩ := w.exists_call (.position session)
  unfold sessionPosition
  rw [h]
  cases result with
  | ok => exact ⟨[_], rfl, (List.append_nil _).symm, Holding.Comes.refl.step (.used rfl live)⟩
  | error =>
    exact ⟨[_, _], rfl, (List.append_nil _).symm,
      (Holding.Comes.refl.step (.used rfl live)).step (.aside rfl)⟩

end

end World
end MediaPlayback
