import MediaPlayback.Proofs.Failure

/-! An engine that is reset starts over. Whatever it was doing and whatever the host fails at, it is
then as it was when it was started, but for the settings of its cursor, the place of the app and the
number of requests, and it has left nothing with the host. To reset it once more is no more than noted,
and the answers to what it asked for before do not concern it any more. -/

namespace MediaPlayback

/-- The engine as it was when it was started: nothing is active, held or shown, and there is no playlist.
The settings of the cursor, the place of the app and the number of requests are kept. -/
def Engine.renewed (e : Engine) : Engine where
  cursor := { shuffled := e.cursor.shuffled, repeatMode := e.cursor.repeatMode }
  backgrounded := e.backgrounded
  lastRequest := e.lastRequest

/-- An engine that gave up everything and published that starts over. Whether its notification went
away as well is up to the host. -/
theorem Engine.cleared_published (e : Engine) (shown : Bool) :
    e.cleared.published shown = { e.renewed with shown } := by
  have nothing : e.cleared.announcedItem = none := by
    unfold announcedItem
    split
    case isTrue known =>
      cases last : e.cleared.lastItem with
      | none => rfl
      | some item =>
        rw [last] at known
        exact known.elim
    case isFalse => rfl
  unfold published
  rw [nothing]
  simp [cleared, stopped, renewed, Cursor.reset, Mode.reported]

/-- A notification is not shown while playback is stopped, so the one of an engine that starts over is
gone. -/
theorem Engine.Withdraws.renewed {e : Engine} {shown : Bool}
    (withdraws : { e.renewed with shown }.Withdraws) : { e.renewed with shown } = e.renewed := by
  cases shown with
  | false => rfl
  | true => exact absurd rfl (withdraws (.inl rfl)).2

theorem World.reset_of_renewed {σ L : Type} [Surroundings σ L] (w : World σ L) {e : Engine}
    (renewed : w.engine = e.renewed) : w.reset = w := by
  obtain ⟨engine, _, _, _, _, _, _, _, _⟩ := w
  obtain rfl : engine = e.renewed := renewed
  rfl

namespace Core

variable {σ L : Type} [Surroundings σ L] {c : Core σ L} {action : Action σ L}

/-- When the engine takes the next message, it notes something in the log, and that is all that
happens. -/
def Disregards (c : Core σ L) : Prop := ∃ entries : List LogRecord,
  c.act .take = { c with
    mailbox := c.mailbox.tail
    world := { c.world with trace := entries.map .logged ++ c.world.trace } }

/-- What leaves the world as it is, but for what happened, has nothing to publish. -/
theorem Sound.act_take_of_handled (sound : c.Sound) {m : Message} (next : c.next? = some m)
    (other : m ≠ .shutdown) {effects : List (Effect L)}
    (handled : (c.noting m).handle m = { c.world with trace := effects ++ c.world.trace }) :
    c.act .take = { c with
      mailbox := c.mailbox.tail
      world := { c.world with trace := effects ++ c.world.trace } } := by
  have turned : c.world.turn m = { c.world with trace := effects ++ c.world.trace } := by
    show ((c.noting m).handle m).publish = _
    rw [handled]
    exact World.publish_of_announced _ ⟨sound.announced.state, sound.announced.item⟩
  rw [act_take_eq next other, turned, collect_eq]
  simp [sound.settled.posted, sound.settled.tasks]

/-- What is handled by no more than entries in the log is disregarded. -/
theorem Sound.disregards (sound : c.Sound) {m : Message} (next : c.next? = some m)
    (other : m ≠ .shutdown) (entries : List LogRecord)
    (handled : (c.noting m).handle m =
      { c.noting m with trace := entries.map .logged ++ (c.noting m).trace }) : c.Disregards := by
  let noted : LogRecord :=
    ⟨.trace, LogSource.engine.target, "Engine command", [("command", m.name)], none⟩
  refine ⟨entries ++ [noted], sound.act_take_of_handled next other (handled.trans ?_)⟩
  rw [List.map_append, List.append_assoc]
  rfl

/-- In an action the engine is reset: it is told to reset, or it ends. -/
inductive Resets (c : Core σ L) : Action σ L → Prop where
  | told (next : c.next? = some .reset) : Resets c .take
  | ended {action : Action σ L} (running : c.phase = .running)
    (ended : (c.act action).phase = .ended) : Resets c action

theorem Resets.cleared (resets : c.Resets action) (settled : c.Settled) :
    ∃ shown, (c.act action).world.engine = c.world.engine.cleared.published shown := by
  cases resets with
  | told next =>
    obtain ⟨_, _, turned⟩ := act_take next nofun
    obtain ⟨e, shown, handles, published⟩ := c.world.turn_engine .reset
    cases handles
    rw [turned]
    exact ⟨shown, published⟩
  | ended running ended =>
    have moves := act_moves settled action
    generalize c.act action = c' at moves ended ⊢
    cases moves with
    | ends _ _ _ _ _ _ engine => exact ⟨_, engine⟩
    | stays _ _ stays => cases running.symm.trans (stays.phase.symm.trans ended)
    | turns | delivers | lapses | refuses => cases running.symm.trans ended

theorem Sound.renewed_of_resets (sound : c.Sound) (withdraws : c.world.engine.Withdraws)
    (resets : c.Resets action) : (c.act action).world.engine = c.world.engine.renewed := by
  obtain ⟨shown, engine⟩ := resets.cleared sound.settled
  have withdraws' := sound.act_withdraws withdraws action
  rw [Engine.cleared_published] at engine
  rw [engine] at withdraws' ⊢
  exact withdraws'.renewed

theorem Sound.disregards_reset (sound : c.Sound) {e : Engine} (renewed : c.world.engine = e.renewed)
    (next : c.next? = some .reset) : c.Disregards := by
  have handled : (c.noting .reset).handle .reset = c.noting .reset :=
    (c.noting .reset).reset_of_renewed renewed
  exact sound.disregards next nofun [] handled

omit [Surroundings σ L] in
theorem Sound.request_le (sound : c.Sound) {task : PrepareTask}
    (started : task ∈ Effect.startsIn c.world.trace) :
    task.request ≤ c.world.engine.lastRequest := by
  have numbered : task.request ∈ List.range' 1 c.world.engine.lastRequest := by
    have requests : (Effect.startsIn c.world.trace).reverse.map (·.request) =
        List.range' 1 c.world.engine.lastRequest := sound.accounts.requests
    rw [← requests]
    exact List.mem_map_of_mem (List.mem_reverse.mpr started)
  have bounds := List.mem_range'_1.mp numbered
  omega

/-- What was started before nothing was awaited is not awaited any more, whatever happens. -/
theorem Sound.not_awaits_after (sound : c.Sound) (idle : c.world.engine.mode = .idle)
    {task : PrepareTask} (started : task ∈ Effect.startsIn c.world.trace)
    (actions : List (Action σ L)) : ¬ (c.after actions).Awaits task.request := by
  intro awaits
  rcases sound.awaited_since actions awaits with throughout | ⟨earlier, start, _, _, later, _⟩
  · obtain ⟨item, awaits⟩ := throughout [] List.nil_prefix
    rw [after_nil, idle] at awaits
    contradiction
  -- What was started later has a larger number than all that was started before.
  · obtain ⟨effects, grown⟩ := sound.after_grows earlier
    have started : task ∈ Effect.startsIn (c.after earlier).world.trace := by
      rw [grown, Effect.startsIn_append]
      exact List.mem_append_right _ started
    exact absurd ((sound.after earlier).request_le started) (by omega)

/-- The answer to a request does not concern the engine: nothing changes for it when the host gives the
answer, and when the engine takes it, at most a session is unloaded. -/
structure Outlives (c : Core σ L) (request : Nat) : Prop where
  given : ∀ result, (c.act (.answer request result)).world.engine = c.world.engine
  taken : ∀ item result, c.next? = some (.prepared request item result) →
    c.world.Ignores (c.act .take).world (c.world.engine.lateCalls result)

theorem Sound.answer_engine (sound : c.Sound) (request : Nat)
    (result : Except HostError PreparedSession) :
    (c.act (.answer request result)).world.engine = c.world.engine := by
  have moves := act_moves sound.settled (.answer request result)
  generalize c.act (.answer request result) = c' at moves ⊢
  cases moves with
  | stays _ _ stays => exact stays.engine
  | ends _ cause =>
    rcases cause with ⟨same, _⟩ | ⟨same, _⟩
    · cases same
    · cases same
  | delivers | lapses | refuses => rfl

theorem Sound.outlives (sound : c.Sound) {request : Nat} (late : ¬ c.Awaits request) :
    c.Outlives request :=
  ⟨sound.answer_engine request, fun _ _ next => sound.take_late next late⟩

/-- A reset is complete, and it is the same as two resets. Whatever the engine was doing, and whatever
the host fails at meanwhile, it is then as it was when it was started, but for the settings of its
cursor, the place of the app and the number of requests; the host's audio output has no live session,
and every token was given back. If the engine is told to reset next, that is noted and nothing else
happens. No answer to a prepare that was started before the reset concerns the engine ever after. -/
theorem reset_leaves_nothing (blank : c.Blank) (interval : Duration) (actions : List (Action σ L))
    (resets : ((c.launch interval).after actions).Resets action) :
    let s := (c.launch interval).after actions
    let s' := s.act action
    s'.world.engine = s.world.engine.renewed ∧
    Effect.liveIn s'.world.trace = none ∧
    (∀ token : Token, token.heldAfter (c.callLog interval (actions ++ [action])) = false) ∧
    (∀ between, s'.taken between = [] → (s'.after between).next? = some .reset →
      (s'.after between).Disregards) ∧
    ∀ task ∈ Effect.startsIn s.world.trace, ∀ later, (s'.after later).Outlives task.request := by
  intro s s'
  have launched := Sound.launch blank interval
  have sound : s.Sound := launched.after actions
  have sound' : s'.Sound := sound.act action
  have withdraws : s.world.engine.Withdraws := launch_withdraws blank interval actions
  have renewed : s'.world.engine = s.world.engine.renewed :=
    sound.renewed_of_resets withdraws resets
  have only : Effect.LiveOnly s'.world.engine.live s'.world.trace :=
    sound.act_liveOnly action (launched.after_liveOnly actions (launch_liveOnly blank interval))
  refine ⟨renewed, ?_, fun token => ?_, fun between untaken next => ?_, fun task started later => ?_⟩
  · rw [renewed] at only
    exact Option.eq_none_iff_forall_ne_some.mpr fun session lives => nomatch only session lives
  · rw [← Token.heldAfter_eq (c.callLog_orderly interval (actions ++ [action]) token), after_append]
    show s'.world.engine.holds token = false
    rw [renewed]
    cases token <;> rfl
  · have engine := sound'.engine_of_untaken between untaken (mailbox_of_next next).1
    exact (sound'.after between).disregards_reset (engine.trans renewed) next
  · obtain ⟨effects, grown⟩ := sound.act_grows action
    have started' : task ∈ Effect.startsIn s'.world.trace := by
      rw [grown, Effect.startsIn_append]
      exact List.mem_append_right _ started
    have idle : s'.world.engine.mode = .idle := by rw [renewed]; rfl
    exact (sound'.after later).outlives (sound'.not_awaits_after idle started' later)

/-- The encore plays in the background, while the song that it overtook is still being prepared. Then
playback is to be reset. -/
def cluttered : List (Action Stubborn Empty) :=
  [.command (.choose .song), .take, .ask, .command (.choose .encore), .take, .ask,
    .answer 2 (.ok ⟨⟨2⟩, none⟩), .take, .signal .background, .signal (.expire 1), .take,
    .command .reset]

/-- Although the host does not take the encore back, nothing is left of it, and another reset is
disregarded. When the song is prepared at last, that does not concern the engine. -/
theorem reset_leaves_nothing_cluttered :
    let s := (resisted.launch .zero).after cluttered
    let s' := s.act .take
    s.Resets .take ∧ s.world.engine.live = some ⟨2⟩ ∧ s.world.engine.shown = true ∧
    s.world.engine.holdsWakeLock = true ∧
    s'.world.engine = { backgrounded := true, lastRequest := 2 } ∧
    (s'.after [.command .reset]).Disregards ∧
    (s'.after [.answer 1 (.ok ⟨⟨1⟩, none⟩)]).next? = some (.prepared 1 .song (.ok ⟨⟨1⟩, none⟩)) ∧
    (s'.after [.answer 1 (.ok ⟨⟨1⟩, none⟩)]).Outlives 1 := by
  have resets : ((resisted.launch .zero).after cluttered).Resets .take := .told (by rfl)
  have blank : resisted.Blank :=
    ⟨rfl, rfl, rfl, ⟨rfl, rfl⟩, fun _ mem => absurd mem List.not_mem_nil⟩
  have started : (⟨1, .song, { path := Item.song.path }⟩ : PrepareTask) ∈
      Effect.startsIn ((resisted.launch .zero).after cluttered).world.trace := by decide +kernel
  have next : ((((resisted.launch .zero).after cluttered).act .take).after
      [.answer 1 (.ok ⟨⟨1⟩, none⟩)]).next? = some (.prepared 1 .song (.ok ⟨⟨1⟩, none⟩)) := by rfl
  obtain ⟨renewed, _, _, again, late⟩ := reset_leaves_nothing blank .zero cluttered resets
  exact ⟨resets, by decide +kernel, by decide +kernel, by decide +kernel,
    renewed.trans (by decide +kernel), again _ (by decide +kernel) (by rfl), next,
    late _ started _⟩

end Core
end MediaPlayback
