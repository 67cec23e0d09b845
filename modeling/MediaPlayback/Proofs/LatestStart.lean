import MediaPlayback.Proofs.Invariant

/-! The last start wins. Prepares may be answered in any order, but only the answer to the latest
start has an effect, and only if the engine awaited it ever since. Every other answer, and every
report about a session that is not the live one, changes nothing but the log, except that a session
that comes too late is unloaded. -/

namespace MediaPlayback

/-- The call that an effect is. -/
def Effect.call? {L : Type} : Effect L → Option HostCall
  | .called call _ => some call
  | _ => none

/-- Whether an effect reaches subscribers, listeners or users. -/
def Effect.isHeard {L : Type} : Effect L → Bool
  | .emitted _ | .notified .. | .replied _ => true
  | _ => false

theorem Mode.exists_preparing {mode : Mode} {id : Nat} {item : Item}
    (awaits : mode.awaited? = some (id, item)) :
    ∃ request, mode = .preparing item request ∧ request.id = id := by
  cases mode with
  | preparing item request =>
    obtain ⟨rfl, rfl⟩ := Prod.mk.inj (Option.some.inj awaits)
    exact ⟨request, rfl, rfl⟩
  | _ => contradiction

theorem Engine.Coherent.awaits_latest {e : Engine} (coherent : e.Coherent) {id : Nat} {item : Item}
    (awaits : e.mode.awaited? = some (id, item)) : id = e.lastRequest := by
  obtain ⟨request, preparing, same⟩ := Mode.exists_preparing awaits
  exact same.symm.trans (coherent.latest item request preparing)

/-- The calls that a late answer leads to: its session is unloaded, unless it is the live one. -/
def Engine.lateCalls (e : Engine) : Except HostError PreparedSession → List HostCall
  | .ok prepared => if e.live = some prepared.session then [] else [.unload prepared.session]
  | .error _ => []

namespace World

variable {σ L : Type}

/-- From one world to another nothing changed for anyone, and only these calls were made. -/
structure Ignores (w w' : World σ L) (calls : List HostCall) : Prop where
  engine : w'.engine = w.engine
  trace : ∃ effects, w'.trace = effects ++ w.trace ∧ effects.filterMap Effect.call? = calls ∧
    ∀ effect ∈ effects, effect.isHeard = false

/-- An entry in the log goes unheard. -/
theorem Ignores.of_log {w w' : World σ L} {source : LogSource} {level : LogLevel}
    {message : String} {fields : List (String × String)} {calls : List HostCall}
    (ignores : (w.log source level message fields).Ignores w' calls) : w.Ignores w' calls := by
  obtain ⟨engine, effects, trace, called, unheard⟩ := ignores
  refine ⟨engine, effects ++ [.logged ⟨level, source.target, message, fields, none⟩], ?_, ?_, ?_⟩
  · rw [trace, List.append_assoc]
    rfl
  · rw [List.filterMap_append, called]
    exact List.append_nil calls
  · intro effect mem
    rcases List.mem_append.mp mem with mem | mem
    · exact unheard effect mem
    · rw [List.mem_singleton.mp mem]
      rfl

theorem Ignores.refl (w : World σ L) : w.Ignores w [] :=
  ⟨rfl, [], rfl, rfl, fun _ mem => absurd mem List.not_mem_nil⟩

variable [Surroundings σ L]

/-- There is nothing to publish where all is known. -/
theorem publish_of_announced (w : World σ L) (announced : w.engine.Announced) : w.publish = w := by
  obtain ⟨state, item⟩ := announced
  have known : w.publishItem = w := if_pos item
  unfold publish
  dsimp only
  rw [known, if_pos state.symm, if_neg (not_not_intro item)]

theorem discard_ignores (w : World σ L) (session : SessionId) :
    w.Ignores (w.discard session)
      (if w.engine.live = some session then [] else [.unload session]) := by
  unfold discard
  split
  case isTrue => exact .refl w
  case isFalse =>
    unfold unload
    obtain ⟨result, outside, h⟩ := w.exists_call (.unload session)
    rw [h]
    cases result with
    | ok => exact ⟨rfl, [_], rfl, rfl, by simp [Effect.isHeard]⟩
    | error => exact ⟨rfl, [_, _], rfl, rfl, by simp [Effect.isHeard]⟩

theorem discardPrepared_ignores (w : World σ L) (id : Nat)
    (result : Except HostError PreparedSession) :
    w.Ignores (w.discardPrepared id result) (w.engine.lateCalls result) := by
  cases result with
  | ok prepared => exact .of_log (discard_ignores _ prepared.session)
  | error => exact .of_log (.refl _)

/-- An answer that is not awaited is ignored. -/
theorem onPrepared_ignores (w : World σ L) {id : Nat} (item : Item)
    (result : Except HostError PreparedSession)
    (late : ∀ active request, w.engine.mode = .preparing active request → request.id ≠ id) :
    w.Ignores (w.onPrepared id item result) (w.engine.lateCalls result) := by
  unfold onPrepared
  split
  case h_1 active request preparing =>
    rw [if_neg (late active request preparing)]
    exact w.discardPrepared_ignores id result
  case h_2 => exact w.discardPrepared_ignores id result

/-- A report about a session that is not the live one is ignored. -/
theorem onOutput_ignores (w : World σ L) {event : OutputEvent}
    (stale : w.engine.mode.session? ≠ some event.session) :
    w.Ignores (w.onOutput event) [] := by
  have ignored : w.Ignores (w.ignoreOutput event) [] := .of_log (.refl _)
  unfold onOutput
  split
  case h_1 item session playing =>
    rw [if_neg fun same => stale (by rw [playing, same]; rfl)]
    exact ignored
  case h_2 item session paused =>
    rw [if_neg fun same => stale (by rw [paused, same]; rfl)]
    exact ignored
  case h_3 => exact ignored

/-- What is ignored when it is handled is ignored by the whole turn. -/
theorem turn_ignores (w : World σ L) (announced : w.engine.Announced) {m : Message}
    {calls : List HostCall}
    (handle : ∀ w' : World σ L, w'.engine = w.engine → w'.Ignores (w'.handle m) calls) :
    w.Ignores (w.turn m) calls := by
  have ignores := handle (w.log .engine .trace "Engine command" [("command", m.name)]) rfl
  have same := ignores.engine
  unfold turn
  rw [publish_of_announced _ (by rw [same]; exact announced)]
  exact .of_log ignores

/-- The answer that is awaited ends the wait: its item plays or is paused, or nothing is active any
more. -/
theorem turn_of_awaited (w : World σ L) {id : Nat} {active : Item} (item : Item)
    (result : Except HostError PreparedSession)
    (awaits : w.engine.mode.awaited? = some (id, active)) :
    (w.turn (.prepared id item result)).engine.mode = .idle ∨ ∃ prepared, result = .ok prepared ∧
      ((w.turn (.prepared id item result)).engine.mode = .playing item prepared.session ∨
        (w.turn (.prepared id item result)).engine.mode = .paused item prepared.session) := by
  obtain ⟨request, preparing, current⟩ := Mode.exists_preparing awaits
  obtain ⟨e, shown, handles, turned⟩ := w.turn_engine (.prepared id item result)
  rw [turned]
  cases handles with
  | preparedLate late => exact absurd current (late active request preparing)
  | preparedFailed => exact .inl rfl
  | preparedHeld => exact .inr ⟨_, rfl, .inr rfl⟩
  | preparedBegun _ _ _ begins =>
    cases begins with
    | denied => exact .inl rfl
    | played => exact .inr ⟨_, rfl, .inl rfl⟩
    | failed => exact .inl rfl

end World

namespace Core

variable {σ L : Type} [Surroundings σ L] {c : Core σ L} {action : Action σ L}

/-- The engine awaits the answer to a request. -/
def Awaits (c : Core σ L) (request : Nat) : Prop :=
  ∃ item, c.world.engine.mode.awaited? = some (request, item)

/-- The engine awaited the answer to a request ever since an action of the run started it. -/
def AwaitedSince (c : Core σ L) (actions : List (Action σ L)) (request : Nat) : Prop :=
  ∃ earlier start later, actions = earlier ++ start :: later ∧
    (c.after earlier).world.engine.lastRequest < request ∧
    ∀ between, between <+: later → (c.after (earlier ++ start :: between)).Awaits request

/-- What is awaited after an action was awaited before it, or it was started by it. -/
theorem Sound.awaited_before (sound : c.Sound) {request : Nat}
    (awaits : (c.act action).Awaits request) :
    c.Awaits request ∨ c.world.engine.lastRequest < request := by
  obtain ⟨item, awaits⟩ := awaits
  have coherent := (sound.act action).coherent
  have moves := act_moves sound.settled action
  generalize c.act action = c' at awaits coherent moves
  cases moves with
  | stays _ _ stays =>
    rw [stays.engine] at awaits
    exact .inl ⟨item, awaits⟩
  | @turns m =>
    obtain ⟨hand', _, effects, _, _, comes⟩ := c.world.turn_leads m sound.coherent
    rcases comes.awaited awaits with ⟨_, before⟩ | ⟨task, earlier, starts, _, _⟩
    · exact .inl ⟨item, before⟩
    -- The turn started it, and so it has a larger number than all before.
    · have counted : (c.world.turn m).engine.lastRequest = _ := comes.requests
      rw [starts, List.length_cons] at counted
      have latest : request = (c.world.turn m).engine.lastRequest := coherent.awaits_latest awaits
      have before : (c.world.engine.holding m.handed?).requests = c.world.engine.lastRequest := rfl
      right
      omega
  | ends _ _ _ _ _ _ engine =>
    rw [engine] at awaits
    contradiction
  | delivers => exact .inl ⟨item, awaits⟩
  | lapses => exact .inl ⟨item, awaits⟩
  | refuses => exact .inl ⟨item, awaits⟩

/-- What is awaited after a run was awaited all along, or ever since a start within the run. -/
theorem Sound.awaited_since (sound : c.Sound) (actions : List (Action σ L)) {request : Nat}
    (awaits : (c.after actions).Awaits request) :
    (∀ between, between <+: actions → (c.after between).Awaits request) ∨
    c.AwaitedSince actions request := by
  induction actions generalizing c with
  | nil =>
    refine .inl fun between initial => ?_
    rw [List.prefix_nil.mp initial]
    exact awaits
  | cons action rest ih =>
    rcases ih (sound.act action) awaits with
      throughout | ⟨earlier, start, later, rfl, before, since⟩
    · have now := throughout [] (List.nil_prefix)
      rcases sound.awaited_before now with already | started
      · refine .inl fun between initial => ?_
        cases between with
        | nil => exact already
        | cons next between =>
          obtain ⟨rfl, shorter⟩ := List.cons_prefix_cons.mp initial
          exact throughout between shorter
      · exact .inr ⟨[], action, rest, rfl, started, throughout⟩
    · exact .inr ⟨action :: earlier, start, later, rfl, before, since⟩

omit [Surroundings σ L] in
/-- An answer that is due to the request that is awaited is about the item that was started last. -/
theorem Sound.last_start (sound : c.Sound) {request : Nat} {item active : Item}
    (awaits : c.world.engine.mode.awaited? = some (request, active))
    (due : (request, item) ∈ c.due) :
    ∃ output, (Effect.startsIn c.world.trace).head? = some ⟨request, item, output⟩ := by
  obtain ⟨task, earlier, starts, rfl, rfl⟩ := sound.accounts.awaited request active awaits
  have nodup := sound.accounts.nodup
  obtain ⟨answered, mem, subject⟩ := List.mem_map.mp (sound.started _ due)
  obtain ⟨number, same⟩ := Prod.mk.inj subject
  rw [starts] at nodup mem ⊢
  rcases List.mem_cons.mp mem with rfl | before
  · exact ⟨answered.output, by rw [← same]; rfl⟩
  · rw [List.map_cons, List.nodup_cons] at nodup
    exact absurd (List.mem_map.mpr ⟨answered, before, number⟩) nodup.1

omit [Surroundings σ L] in
theorem Sound.due_once (sound : c.Sound) (request : Nat) :
    c.due.countP (·.1 = request) ≤ 1 := by
  have once := List.nodup_iff_count.mp sound.distinct request
  rw [List.count, List.countP_map] at once
  exact Nat.le_trans (List.countP_mono_left fun answer _ same => by simpa using same) once

theorem due_of_next {request : Nat} {item : Item} {result : Except HostError PreparedSession}
    (next : c.next? = some (.prepared request item result)) : (request, item) ∈ c.due := by
  obtain ⟨_, ⟨rest, mailbox⟩, _⟩ := act_take next nofun
  unfold due
  rw [mailbox]
  exact List.mem_append_right _ List.mem_cons_self

/-- The answer that is awaited is about the item that was started last, and that item then plays or
is paused, unless nothing is active any more. -/
theorem Sound.take_awaited (sound : c.Sound) {request : Nat} {item : Item}
    {result : Except HostError PreparedSession}
    (next : c.next? = some (.prepared request item result)) (awaits : c.Awaits request) :
    (∃ output, (Effect.startsIn c.world.trace).head? = some ⟨request, item, output⟩) ∧
    ((c.act .take).world.engine.mode = .idle ∨ ∃ prepared, result = .ok prepared ∧
      ((c.act .take).world.engine.mode = .playing item prepared.session ∨
        (c.act .take).world.engine.mode = .paused item prepared.session)) := by
  obtain ⟨active, awaits⟩ := awaits
  obtain ⟨_, _, turned⟩ := act_take next nofun
  have ends := c.world.turn_of_awaited item result awaits
  refine ⟨sound.last_start awaits (due_of_next next), ?_⟩
  rw [turned]
  exact ends

/-- Any other answer is ignored. -/
theorem Sound.take_late (sound : c.Sound) {request : Nat} {item : Item}
    {result : Except HostError PreparedSession}
    (next : c.next? = some (.prepared request item result)) (late : ¬ c.Awaits request) :
    c.world.Ignores (c.act .take).world (c.world.engine.lateCalls result) := by
  obtain ⟨_, _, turned⟩ := act_take next nofun
  have unawaited : ∀ active request', c.world.engine.mode = .preparing active request' →
      request'.id ≠ request := by
    intro active request' preparing same
    exact late ⟨active, by rw [preparing, ← same]; rfl⟩
  have ignores : c.world.Ignores (c.world.turn (.prepared request item result))
      (c.world.engine.lateCalls result) := by
    refine c.world.turn_ignores sound.announced fun w' same => ?_
    rw [← same] at unawaited ⊢
    exact w'.onPrepared_ignores item result unawaited
  rw [turned]
  exact ⟨ignores.engine, ignores.trace⟩

/-- A report about a session that is not the live one is ignored. -/
theorem Sound.take_stale (sound : c.Sound) {event : OutputEvent}
    (next : c.next? = some (.output event)) (stale : c.world.engine.live ≠ some event.session) :
    c.world.Ignores (c.act .take).world [] := by
  obtain ⟨_, _, turned⟩ := act_take next nofun
  have ignores : c.world.Ignores (c.world.turn (.output event)) [] := by
    refine c.world.turn_ignores sound.announced fun w' same => ?_
    rw [sound.coherent.live, ← same] at stale
    exact w'.onOutput_ignores stale
  rw [turned]
  exact ⟨ignores.engine, ignores.trace⟩

/-- Only the answer to the latest start counts. -/
theorem last_start_wins (blank : c.Blank) (interval : Duration) (actions : List (Action σ L)) :
    let launched := c.launch interval
    let s := launched.after actions
    let s' := s.act .take
    (Effect.startsIn s.world.trace).reverse.map (·.request) =
      List.range' 1 s.world.engine.lastRequest ∧
    (∀ request, s.Awaits request → s.due.countP (·.1 = request) ≤ 1) ∧
    (∀ request item result, s.next? = some (.prepared request item result) →
      (s.Awaits request →
        launched.AwaitedSince actions request ∧
        (∃ output, (Effect.startsIn s.world.trace).head? = some ⟨request, item, output⟩) ∧
        (s'.world.engine.mode = .idle ∨ ∃ prepared, result = .ok prepared ∧
          (s'.world.engine.mode = .playing item prepared.session ∨
            s'.world.engine.mode = .paused item prepared.session))) ∧
      (¬ s.Awaits request → s.world.Ignores s'.world (s.world.engine.lateCalls result))) ∧
    (∀ event, s.next? = some (.output event) → s.world.engine.live ≠ some event.session →
      s.world.Ignores s'.world []) := by
  have sound := (Sound.launch blank interval).after actions
  have unawaited : ∀ request, ¬ (c.launch interval).Awaits request := by
    rintro request ⟨item, awaits⟩
    rw [(launch_world blank interval).1] at awaits
    contradiction
  refine ⟨sound.accounts.requests, fun request _ => sound.due_once request, ?_, ?_⟩
  · intro request item result next
    refine ⟨fun awaits => ⟨?_, sound.take_awaited next awaits⟩, sound.take_late next⟩
    rcases (Sound.launch blank interval).awaited_since actions awaits with throughout | since
    · exact absurd (throughout [] List.nil_prefix) (unawaited request)
    · exact since
  · exact fun event next stale => sound.take_stale next stale

/-- The answer about the song that was overtaken leads to nothing but an unload, and the answer
about the encore, which was started last, was awaited ever since. -/
theorem last_start_wins_overtaken :
    ((obliged.launch .zero).after overtaken).next? =
      some (.prepared 1 .song (.ok ⟨⟨1⟩, none⟩)) ∧
    ¬ ((obliged.launch .zero).after overtaken).Awaits 1 ∧
    ((obliged.launch .zero).after overtaken).world.Ignores
      (((obliged.launch .zero).after overtaken).act .take).world [.unload ⟨1⟩] ∧
    ((obliged.launch .zero).after (overtaken ++ [.take])).next? =
      some (.prepared 2 .encore (.ok ⟨⟨2⟩, none⟩)) ∧
    (obliged.launch .zero).AwaitedSince (overtaken ++ [.take]) 2 := by
  have next : ((obliged.launch .zero).after overtaken).next? =
      some (.prepared 1 .song (.ok ⟨⟨1⟩, none⟩)) := by rfl
  have encore : ((obliged.launch .zero).after overtaken).world.engine.mode.awaited? =
      some (2, .encore) := by rfl
  have late : ¬ ((obliged.launch .zero).after overtaken).Awaits 1 := by
    rintro ⟨item, awaits⟩
    simp [encore] at awaits
  have next' : ((obliged.launch .zero).after (overtaken ++ [.take])).next? =
      some (.prepared 2 .encore (.ok ⟨⟨2⟩, none⟩)) := by rfl
  have encore' : ((obliged.launch .zero).after (overtaken ++ [.take])).world.engine.mode.awaited? =
      some (2, .encore) := by rfl
  have calls : ((obliged.launch .zero).after overtaken).world.engine.lateCalls
      (.ok ⟨⟨1⟩, none⟩) = [.unload ⟨1⟩] := by rfl
  have first := last_start_wins obliged_blank .zero overtaken
  have second := last_start_wins obliged_blank .zero (overtaken ++ [.take])
  dsimp only at first second
  obtain ⟨_, _, answers, _⟩ := first
  obtain ⟨_, _, answers', _⟩ := second
  obtain ⟨_, ignores⟩ := answers 1 .song (.ok ⟨⟨1⟩, none⟩) next
  obtain ⟨since, _⟩ := (answers' 2 .encore (.ok ⟨⟨2⟩, none⟩) next').1 ⟨.encore, encore'⟩
  rw [calls] at ignores
  exact ⟨next, late, ignores late, next', since⟩

end Core
end MediaPlayback
