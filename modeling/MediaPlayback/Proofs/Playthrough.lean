import MediaPlayback.Proofs.Stage
import MediaPlayback.Proofs.Story

/-! A playlist is played through. When nothing interferes, the items from the current one on are
prepared, played and unloaded one after the other in the effective order, to the end of the playlist or
round and round; and under the repeat mode of one item, that item is played again and again. -/

namespace MediaPlayback

/-- An item that was played to its end, and the session that it was played in. -/
structure Round where
  item : Item
  session : SessionId

/-- What the audio output is asked for to play an item to its end. -/
def Round.calls (r : Round) : List OutputCall :=
  [.prepare r.item.path, .play r.session, .unload r.session]

namespace Core

variable {σ L : Type}

/-- Where a core is that came some steps ahead of where it started, with what the audio output was
asked for since: an item is on its way, or there is none and playback is over. -/
inductive Reaches (c : Core σ L) (cursor : Cursor) (start steps : Nat) : List OutputCall → Prop where
  | on {index : Nat} {item : Item} {calls : List OutputCall}
    (ahead : cursor.ahead? start steps = some index) (there : cursor.items[index]? = some item)
    (moved : c.world.engine.cursor = { cursor with position := some index })
    (on : c.On item calls) : Reaches c cursor start steps calls
  | ended (ahead : cursor.ahead? start steps = none) (stopped : c.world.engine.mode = .idle)
    (dropped : c.world.engine.cursor = cursor.reset)
    (unfocused : Effect.focusIn c.world.trace = false) (waiting : c.waiting = []) :
    Reaches c cursor start steps []

/-- One item after the other was played, and that is all that the audio output was asked for. -/
def PlaysOn (c : Core σ L) (cursor : Cursor) (start : Nat) (completed : List SessionId)
    (calls : List OutputCall) : Prop :=
  ∃ (rounds : List Round) (current : List OutputCall),
    completed = rounds.map (·.session) ∧ calls = rounds.flatMap Round.calls ++ current ∧
    (∀ steps round, rounds[steps]? = some round →
      (cursor.ahead? start steps).bind (cursor.items[·]?) = some round.item) ∧
    c.Reaches cursor start rounds.length current

/-- One item was played once and then again each time it was completed, and that is all that the
audio output was asked for. -/
def PlaysAgain (c : Core σ L) (item : Item) (completed : List SessionId)
    (calls : List OutputCall) : Prop :=
  ∃ current, c.On item current ∧
    (∀ session ∈ completed, c.world.engine.mode = .playing item session) ∧
    calls = current ++ completed.flatMap fun session => [.seek session .zero, .play session]

variable [Surroundings σ L] {c : Core σ L} {action : Action σ L}

theorem Sound.agrees (sound : c.Sound)
    (agreed : ∀ effect ∈ c.story [action], effect.refuses = false) :
    (c.act action).world.dealings.refusals = c.world.dealings.refusals := by
  have trace : (c.act action).world.trace = (c.story [action]).reverse ++ c.world.trace :=
    sound.trace_after [action]
  have none_new : (c.story [action]).reverse.filter Effect.refuses = [] :=
    List.filter_eq_nil_iff.mpr fun effect mem => by simp [agreed effect (List.mem_reverse.mp mem)]
  show ((c.act action).world.trace.filter Effect.refuses).length = _
  rw [trace, List.filter_append, none_new]
  rfl

theorem Sound.outputCalls_act (sound : c.Sound) {more : List OutputCall}
    (calls : (c.act action).world.dealings.calls = more.reverse ++ c.world.dealings.calls) :
    c.outputCalls [action] = more := by
  rw [outputCalls, sound.filterMap_story action Effect.output? calls, List.reverse_reverse]

theorem Sound.outputCalls_cons (sound : c.Sound) (action : Action σ L)
    (rest : List (Action σ L)) :
    c.outputCalls (action :: rest) = c.outputCalls [action] ++ (c.act action).outputCalls rest := by
  rw [outputCalls, sound.story_cons, List.filterMap_append]
  rfl

theorem completions_cons (c : Core σ L) (action : Action σ L) (rest : List (Action σ L)) :
    c.completions (action :: rest) =
      (c.takes action).filterMap Message.completed? ++ (c.act action).completions rest := by
  rw [completions, taken, along, List.filterMap_append]
  rfl

/-- When a session is completed, it is unloaded. Then the next item is on its way, if there is one. -/
theorem Sound.completed_next (sound : c.Sound) {item next : Item} {cursor : Cursor}
    {session : SessionId} (once : c.world.engine.cursor.repeatMode ≠ .item)
    (playing : c.world.engine.mode = .playing item session) (waiting : c.waiting = [])
    (first : c.next? = some (.output (.completed session)))
    (can : c.world.engine.cursor.canForward)
    (ahead : c.world.engine.cursor.forward = (some next, cursor)) :
    (c.act .take).On next [] ∧ (c.act .take).world.engine.cursor = cursor ∧
    (c.act .take).world.dealings.calls = .unload session :: c.world.dealings.calls := by
  let m : Message := .output (.completed session)
  let noted := c.world.log .engine .trace "Engine command" [("command", m.name)]
  have live : noted.engine.live = some session :=
    sound.coherent.live.trans (congrArg Mode.session? playing)
  obtain ⟨mailbox, turned⟩ := act_take_turned first nofun
  obtain ⟨⟨shown, published⟩, dealings, tasks⟩ := c.world.turn_of_playing_completed playing
  obtain ⟨unloads, moved, request, output, preparing, auto, still, path, task⟩ :=
    noted.onCompleted_of_next item once playing live can ahead
  have starts : c.world.Starts next (c.world.turn m) := by
    refine ⟨request, output, ?_, auto, still, path, tasks.trans task⟩
    rw [published]
    exact preparing
  rw [turned]
  refine ⟨sound.turned_on waiting starts mailbox, ?_,
    congrArg Dealings.calls (dealings.trans unloads)⟩
  rw [turned_engine, published]
  exact moved

/-- Otherwise playback is over, and everything is given back. -/
theorem Sound.completed_last (sound : c.Sound) {item : Item} {session : SessionId}
    (once : c.world.engine.cursor.repeatMode ≠ .item)
    (playing : c.world.engine.mode = .playing item session) (waiting : c.waiting = [])
    (first : c.next? = some (.output (.completed session)))
    (last : c.world.engine.cursor.canForward = false) :
    (c.act .take).world.engine.mode = .idle ∧
    (c.act .take).world.engine.cursor = c.world.engine.cursor.reset ∧
    Effect.focusIn (c.act .take).world.trace = false ∧ (c.act .take).waiting = [] ∧
    (c.act .take).world.dealings.calls = .unload session :: c.world.dealings.calls := by
  let m : Message := .output (.completed session)
  let noted := c.world.log .engine .trace "Engine command" [("command", m.name)]
  have live : noted.engine.live = some session :=
    sound.coherent.live.trans (congrArg Mode.session? playing)
  have focused := (sound.act (.take : Action σ L)).accounts.focused
  obtain ⟨mailbox, turned⟩ := act_take_turned first nofun
  obtain ⟨⟨shown, published⟩, dealings, tasks⟩ := c.world.turn_of_playing_completed playing
  obtain ⟨unloads, cleared, left⟩ := noted.onCompleted_of_last item once live last
  have engine : (c.turned m mailbox).world.engine = c.world.engine.cleared.published shown := by
    rw [turned_engine, published, cleared]
    rfl
  have waits := sound.turned_still_waiting m mailbox (tasks.trans left)
  rw [turned, engine] at focused
  rw [turned, engine]
  exact ⟨rfl, rfl, focused, waits.trans waiting, congrArg Dealings.calls (dealings.trans unloads)⟩

/-- When the session of an item is completed, the next item is reached or the end. -/
theorem Sound.completed_reaches (sound : c.Sound) {cursor : Cursor} (lawful : cursor.Lawful)
    {start steps index : Nat} {item : Item} {session : SessionId}
    (position : cursor.position = some start) (once : cursor.repeatMode ≠ .item)
    (ahead : cursor.ahead? start steps = some index)
    (moved : c.world.engine.cursor = { cursor with position := some index })
    (playing : c.world.engine.mode = .playing item session) (waiting : c.waiting = [])
    (first : c.next? = some (.output (.completed session))) :
    (c.act .take).Reaches cursor start (steps + 1) [] ∧
    (c.act .take).world.dealings.calls = .unload session :: c.world.dealings.calls := by
  have once : c.world.engine.cursor.repeatMode ≠ .item := by
    rw [moved]
    exact once
  have further : c.world.engine.cursor.nextIndex? = cursor.ahead? start (steps + 1) := by
    rw [moved]
    exact Cursor.nextIndex?_of_ahead ahead
  cases next : cursor.ahead? start (steps + 1) with
  | some index' =>
    rw [next] at further
    obtain ⟨item', there⟩ := lawful.exists_ahead position next
    have forward : c.world.engine.cursor.forward =
        (some item', { cursor with position := some index' }) := by
      rw [Cursor.forward, further, moved, ← there, ← lawful.currentItem?_at]
      rfl
    have can : c.world.engine.cursor.canForward = true := by
      rw [Cursor.canForward, further]
      rfl
    obtain ⟨on, cursor', unloads⟩ := sound.completed_next once playing waiting first can forward
    exact ⟨.on next there cursor' on, unloads⟩
  | none =>
    rw [next] at further
    have last : c.world.engine.cursor.canForward = false := by
      rw [Cursor.canForward, further]
      rfl
    obtain ⟨stopped, dropped, unfocused, left, unloads⟩ :=
      sound.completed_last once playing waiting first last
    rw [moved] at dropped
    exact ⟨.ended next stopped dropped unfocused left, unloads⟩

/-- Once playback is over, nothing is done any more. -/
theorem Sound.act_over (sound : c.Sound) (running : c.phase = .running)
    (stopped : c.world.engine.mode = .idle) (waiting : c.waiting = [])
    (undisturbed : c.isUndisturbed action) :
    (c.act action).phase = .running ∧ (c.act action).world.engine = c.world.engine ∧
    (c.act action).waiting = [] ∧ (c.takes action).filterMap Message.completed? = [] ∧
    (c.act action).world.dealings.calls = c.world.dealings.calls := by
  obtain ⟨held, expected⟩ := Bool.and_eq_true_iff.mp undisturbed
  by_cases other : action ≠ .take
  · obtain ⟨engine, phase, begins, waits, dealings⟩ := sound.act_between running held other
    have untaken : c.takes action = [] := by cases action <;> first | rfl | contradiction
    rw [waiting] at waits
    obtain ⟨rfl, left⟩ := List.append_eq_nil_iff.mp waits.symm
    exact ⟨phase.trans running, engine, left, by rw [untaken]; rfl, congrArg Dealings.calls dealings⟩
  · obtain rfl : action = .take := Classical.not_not.mp other
    cases next : c.next? with
    | none =>
      rw [act_take_nothing next]
      exact ⟨running, rfl, waiting, by simp [takes, next], rfl⟩
    | some m =>
      -- An engine that stopped expects nothing.
      have expected : c.world.engine.expects m := by simpa [next] using expected
      unfold Engine.expects at expected
      rw [stopped] at expected
      split at expected <;> contradiction

/-- What an action does for a core on its way through a playlist: more for the same item, or the last
thing for it. -/
theorem Sound.act_reaches (sound : c.Sound) (running : c.phase = .running) {cursor : Cursor}
    (lawful : cursor.Lawful) {start steps : Nat} {current : List OutputCall}
    (position : cursor.position = some start) (once : cursor.repeatMode ≠ .item)
    (reaches : c.Reaches cursor start steps current) (undisturbed : c.isUndisturbed action)
    (agreed : ∀ effect ∈ c.story [action], effect.refuses = false) :
    (c.act action).phase = .running ∧
    ((∃ more, (c.act action).Reaches cursor start steps (current ++ more) ∧
        (c.takes action).filterMap Message.completed? = [] ∧ c.outputCalls [action] = more) ∨
      ∃ round : Round,
        (cursor.ahead? start steps).bind (cursor.items[·]?) = some round.item ∧
        (c.act action).Reaches cursor start (steps + 1) [] ∧
        (c.takes action).filterMap Message.completed? = [round.session] ∧
        current ++ c.outputCalls [action] = round.calls) := by
  cases reaches with
  | @on index item calls ahead there moved on =>
    obtain ⟨phase, continues | completed⟩ :=
      sound.act_on running on undisturbed (sound.agrees agreed)
    · obtain ⟨more, on, cursor', quiet, calls⟩ := continues
      exact ⟨phase, .inl ⟨more, .on ahead there (cursor'.trans moved) on, quiet,
        sound.outputCalls_act calls⟩⟩
    · obtain ⟨session, rfl, next, playing, waiting, rfl⟩ := completed
      obtain ⟨reached, unloads⟩ :=
        sound.completed_reaches lawful position once ahead moved playing waiting next
      have called : c.outputCalls [.take] = [.unload session] := sound.outputCalls_act unloads
      refine ⟨phase, .inr ⟨⟨item, session⟩, by rw [ahead]; exact there, reached, ?_, ?_⟩⟩
      · simp [takes, next, Message.completed?]
      · rw [called]
        rfl
  | ended ahead stopped dropped unfocused waiting =>
    obtain ⟨phase, engine, left, quiet, calls⟩ :=
      sound.act_over running stopped waiting undisturbed
    have focused := (sound.act action).accounts.focused
    rw [engine] at focused
    have still : (c.act action).Reaches cursor start steps [] := by
      refine .ended ahead ?_ ?_ (focused.trans (sound.accounts.focused.symm.trans unfocused)) left
      · rw [engine]
        exact stopped
      · rw [engine]
        exact dropped
    exact ⟨phase, .inl ⟨[], still, quiet, sound.outputCalls_act calls⟩⟩

theorem Sound.after_plays_on (sound : c.Sound) (running : c.phase = .running) {cursor : Cursor}
    (lawful : cursor.Lawful) {start : Nat} {completed : List SessionId} {calls : List OutputCall}
    (position : cursor.position = some start) (once : cursor.repeatMode ≠ .item)
    (plays : c.PlaysOn cursor start completed calls) (actions : List (Action σ L))
    (undisturbed : c.undisturbed actions)
    (agreed : ∀ effect ∈ c.story actions, effect.refuses = false) :
    (c.after actions).PlaysOn cursor start (completed ++ c.completions actions)
      (calls ++ c.outputCalls actions) := by
  induction actions generalizing c completed calls with
  | nil => simpa [completions, taken, along, outputCalls] using plays
  | cons action rest ih =>
    obtain ⟨now, later⟩ := Bool.and_eq_true_iff.mp undisturbed
    rw [sound.story_cons, List.forall_mem_append] at agreed
    rw [completions_cons, sound.outputCalls_cons, ← List.append_assoc, ← List.append_assoc]
    -- The rounds so far, and what was asked for since the last of them, carry the induction.
    obtain ⟨rounds, current, rfl, rfl, programme, reaches⟩ := plays
    obtain ⟨running, continues | ⟨round, item, reaches, completes, whole⟩⟩ :=
      sound.act_reaches running lawful position once reaches now agreed.1
    · obtain ⟨more, reaches, quiet, called⟩ := continues
      refine ih (sound.act action) running ⟨rounds, current ++ more, ?_, ?_, programme, reaches⟩
        later agreed.2
      · rw [quiet, List.append_nil]
      · rw [called, List.append_assoc]
    · refine ih (sound.act action) running ⟨rounds ++ [round], [], ?_, ?_, ?_, ?_⟩ later agreed.2
      · rw [completes, List.map_append]
        rfl
      · rw [List.append_assoc, whole, List.flatMap_append, List.append_nil]
        simp
      · intro steps other there
        rcases Nat.lt_trichotomy steps rounds.length with before | rfl | beyond
        · rw [List.getElem?_append_left before] at there
          exact programme steps other there
        · simp only [List.getElem?_concat_length, Option.some.injEq] at there
          rw [← there]
          exact item
        · have bound := (List.getElem?_eq_some_iff.mp there).1
          simp at bound
          omega
      · rw [List.length_append]
        exact reaches

/-- Under the repeat mode of one item its session is moved to the start and played again when it is
completed. -/
theorem Sound.completed_again (sound : c.Sound) {item : Item} {session : SessionId}
    (again : c.world.engine.cursor.repeatMode = .item)
    (playing : c.world.engine.mode = .playing item session) (waiting : c.waiting = [])
    (next : c.next? = some (.output (.completed session)))
    (agreed : ∀ effect ∈ c.story [.take], effect.refuses = false) :
    (c.act .take).world.engine.mode = .playing item session ∧ (c.act .take).waiting = [] ∧
    (c.act .take).world.engine.cursor = c.world.engine.cursor ∧
    c.outputCalls [.take] = [.seek session .zero, .play session] := by
  let m : Message := .output (.completed session)
  let noted := c.world.log .engine .trace "Engine command" [("command", m.name)]
  have unrefused := sound.agrees agreed
  have called : ∀ more, (c.act .take).world.dealings.calls =
      more.reverse ++ c.world.dealings.calls → c.outputCalls [.take] = more :=
    fun _ => sound.outputCalls_act
  obtain ⟨mailbox, turned⟩ := act_take_turned next nofun
  obtain ⟨⟨shown, published⟩, dealings, tasks⟩ := c.world.turn_of_playing_completed playing
  rw [turned] at unrefused called ⊢
  have granted : (noted.onCompleted item session).dealings.refusals = noted.dealings.refusals := by
    rw [← dealings]
    exact unrefused
  obtain ⟨replays, engine, left⟩ := noted.onCompleted_of_again item session again granted
  have waits := sound.turned_still_waiting m mailbox (tasks.trans left)
  refine ⟨?_, waits.trans waiting, ?_, called _ ?_⟩
  · rw [turned_engine, published, engine]
    rfl
  · rw [turned_engine, published, engine]
    rfl
  · exact congrArg Dealings.calls (dealings.trans replays)

theorem Sound.act_plays_again (sound : c.Sound) (running : c.phase = .running) {item : Item}
    {completed : List SessionId} {calls : List OutputCall}
    (again : c.world.engine.cursor.repeatMode = .item)
    (plays : c.PlaysAgain item completed calls) (undisturbed : c.isUndisturbed action)
    (agreed : ∀ effect ∈ c.story [action], effect.refuses = false) :
    (c.act action).phase = .running ∧
    (c.act action).world.engine.cursor = c.world.engine.cursor ∧
    (c.act action).PlaysAgain item
      (completed ++ (c.takes action).filterMap Message.completed?)
      (calls ++ c.outputCalls [action]) := by
  obtain ⟨current, on, same, rfl⟩ := plays
  obtain ⟨running, continues | ⟨session, rfl, next, playing, waiting, rfl⟩⟩ :=
    sound.act_on running on undisturbed (sound.agrees agreed)
  · obtain ⟨more, on', cursor, quiet, calls⟩ := continues
    refine ⟨running, cursor, ?_⟩
    rw [quiet, sound.outputCalls_act calls, List.append_nil]
    cases completed with
    | nil => exact ⟨current ++ more, on', nofun, by simp⟩
    | cons first others =>
      -- What is playing already needs nothing more.
      have playing := same first List.mem_cons_self
      cases on with
      | due preparing | asked preparing => cases preparing.symm.trans playing
      | playing now =>
        cases now.symm.trans playing
        cases on' with
        | playing still waiting =>
          refine ⟨_, .playing still waiting, fun session mem => ?_, (List.append_nil _)⟩
          cases (same session mem).symm.trans playing
          exact still
  · obtain ⟨still, waiting, cursor, called⟩ :=
      sound.completed_again again playing waiting next agreed
    have completes : (c.takes .take).filterMap Message.completed? = [session] := by
      simp [takes, next, Message.completed?]
    refine ⟨running, cursor, ?_⟩
    rw [completes, called]
    refine ⟨_, .playing still waiting, fun other mem => ?_, by simp⟩
    rcases List.mem_append.mp mem with mem | mem
    · cases (same other mem).symm.trans playing
      exact still
    · rw [List.mem_singleton.mp mem]
      exact still

theorem Sound.after_plays_again (sound : c.Sound) (running : c.phase = .running) {item : Item}
    {completed : List SessionId} {calls : List OutputCall}
    (again : c.world.engine.cursor.repeatMode = .item)
    (plays : c.PlaysAgain item completed calls) (actions : List (Action σ L))
    (undisturbed : c.undisturbed actions)
    (agreed : ∀ effect ∈ c.story actions, effect.refuses = false) :
    (c.after actions).world.engine.cursor = c.world.engine.cursor ∧
    (c.after actions).PlaysAgain item (completed ++ c.completions actions)
      (calls ++ c.outputCalls actions) := by
  induction actions generalizing c completed calls with
  | nil => exact ⟨rfl, by simpa [completions, taken, along, outputCalls] using plays⟩
  | cons action rest ih =>
    obtain ⟨now, later⟩ := Bool.and_eq_true_iff.mp undisturbed
    rw [sound.story_cons, List.forall_mem_append] at agreed
    rw [completions_cons, sound.outputCalls_cons, ← List.append_assoc, ← List.append_assoc]
    obtain ⟨running, cursor, plays⟩ := sound.act_plays_again running again plays now agreed.1
    obtain ⟨same, plays⟩ := ih (sound.act action) running (cursor ▸ again) plays later agreed.2
    exact ⟨same.trans cursor, plays⟩

/-- An idle engine that is told to play sets out with the current item. -/
theorem Sound.act_told (sound : c.Sound) (lawful : c.world.engine.cursor.Lawful)
    (told : c.next? = some .play ∨ c.next? = some .toggle) (idle : c.world.engine.mode = .idle)
    {start : Nat} (position : c.world.engine.cursor.position = some start)
    (begun : ∀ flight ∈ c.flights, flight.begun) :
    ∃ item, c.world.engine.cursor.items[start]? = some item ∧ (c.act .take).On item [] ∧
      (c.act .take).world.engine.cursor = c.world.engine.cursor ∧ (c.act .take).phase = .running ∧
      (c.takes .take).filterMap Message.completed? = [] ∧ c.outputCalls [.take] = [] := by
  obtain ⟨m, next, told⟩ : ∃ m, c.next? = some m ∧ (m = .play ∨ m = .toggle) := by
    rcases told with next | next
    · exact ⟨_, next, .inl rfl⟩
    · exact ⟨_, next, .inr rfl⟩
  have other : m ≠ .shutdown := by
    rintro rfl
    rcases told with told | told <;> contradiction
  have uncompleted : m.completed? = none := by rcases told with rfl | rfl <;> rfl
  have waiting : c.waiting = [] :=
    List.filter_eq_nil_iff.mpr fun flight mem => by simp [begun flight mem]
  have free : c.world.engine.live = none :=
    sound.coherent.live.trans (congrArg Mode.session? idle)
  obtain ⟨item, there⟩ := lawful.exists_ahead position (lawful.ahead?_zero position)
  have current : c.world.engine.cursor.currentItem? = some item := by
    rw [← there, ← lawful.currentItem?_at, ← position]
  obtain ⟨running, _⟩ := act_take next other
  obtain ⟨mailbox, turned⟩ := act_take_turned next other
  obtain ⟨dealings, starts, cursor⟩ := c.world.turn_of_told told idle free current
  have quiet : (c.takes .take).filterMap Message.completed? = [] := by
    simp [takes, next, uncompleted]
  have silent : (c.act .take).world.dealings.calls = [].reverse ++ c.world.dealings.calls := by
    rw [turned]
    exact congrArg Dealings.calls dealings
  have silent := sound.outputCalls_act silent
  rw [turned]
  exact ⟨item, there, sound.turned_on waiting starts mailbox, cursor, running, quiet,
    silent⟩

/-- An idle engine that is told to play, with nothing left over to be prepared, plays its playlist
through from the current index on, if nothing else is asked of it and the host refuses nothing: one
item after the other in the effective order, each session being unloaded before the next item is
prepared, until there is no next one; but under the repeat mode of one item the current item is
prepared once, and whenever it is completed it is moved to its start and played again. -/
theorem plays_through (blank : c.Blank) (interval : Duration)
    (earlier actions : List (Action σ L)) {start : Nat} :
    let before := (c.launch interval).after earlier
    let cursor := before.world.engine.cursor
    let after := before.after (.take :: actions)
    let completed := before.completions (.take :: actions)
    let calls := before.outputCalls (.take :: actions)
    before.next? = some .play ∨ before.next? = some .toggle → before.world.engine.mode = .idle →
    cursor.position = some start → (∀ flight ∈ before.flights, flight.begun) →
    (before.act .take).undisturbed actions →
    (∀ effect ∈ (before.act .take).story actions, effect.refuses = false) →
    (cursor.repeatMode ≠ .item → after.PlaysOn cursor start completed calls) ∧
    (cursor.repeatMode = .item → after.world.engine.cursor = cursor ∧
      ∃ item, cursor.items[start]? = some item ∧ after.PlaysAgain item completed calls) := by
  intro before cursor after completed calls told idle position begun undisturbed agreed
  have sound : before.Sound := (Sound.launch blank interval).after earlier
  have lawful : cursor.Lawful :=
    ((Sound.launch blank interval).onTrack_after (launch_onTrack blank interval) earlier).cursor
  obtain ⟨item, there, on, same, running, quiet, silent⟩ :=
    sound.act_told lawful told idle position begun
  have completes : completed = (before.act .take).completions actions := by
    rw [show completed = _ from before.completions_cons .take actions, quiet, List.nil_append]
  have calls_after : calls = (before.act .take).outputCalls actions := by
    rw [show calls = _ from sound.outputCalls_cons .take actions, silent, List.nil_append]
  have sound := sound.act (.take : Action σ L)
  rw [completes, calls_after]
  constructor
  · intro once
    have plays : (before.act .take).PlaysOn cursor start [] [] := by
      refine ⟨[], [], rfl, rfl, nofun, .on (lawful.ahead?_zero position) there ?_ on⟩
      rw [same, ← position]
    exact sound.after_plays_on running lawful position once plays actions undisturbed agreed
  · intro again
    have plays : (before.act .take).PlaysAgain item [] [] := ⟨[], on, nofun, rfl⟩
    obtain ⟨kept, plays⟩ :=
      sound.after_plays_again running (same ▸ again) plays actions undisturbed agreed
    exact ⟨kept.trans same, item, there, plays⟩

/-- A song and an encore are set, and the engine is told to play them. -/
def billed : List (Action Obliging Empty) :=
  [.command ⟨.setPlaylist (.collection "Concert" [.song, .encore]), rfl⟩, .take,
    .command ⟨.play, rfl⟩]

/-- The host prepares what it is asked for, and it reports the completion of what is playing. -/
def concert : List (Action Obliging Empty) :=
  [.ask, .answer 1 (.ok ⟨⟨1⟩, none⟩), .take, .output (.completed ⟨1⟩), .take,
    .ask, .answer 2 (.ok ⟨⟨2⟩, none⟩), .take, .output (.completed ⟨2⟩), .take]

theorem plays_through_concert :
    let before := (obliged.launch .zero).after billed
    before.next? = some .play ∧ before.outputCalls (.take :: concert) =
      Round.calls ⟨.song, ⟨1⟩⟩ ++ Round.calls ⟨.encore, ⟨2⟩⟩ ∧
    (before.after (.take :: concert)).PlaysOn before.world.engine.cursor 0 [⟨1⟩, ⟨2⟩]
      (Round.calls ⟨.song, ⟨1⟩⟩ ++ Round.calls ⟨.encore, ⟨2⟩⟩) := by
  intro before
  have next : before.next? = some .play := by rfl
  have position : before.world.engine.cursor.position = some 0 := by decide +kernel
  have completed : before.completions (.take :: concert) = [⟨1⟩, ⟨2⟩] := by decide +kernel
  have calls : before.outputCalls (.take :: concert) =
      Round.calls ⟨.song, ⟨1⟩⟩ ++ Round.calls ⟨.encore, ⟨2⟩⟩ := by decide +kernel
  obtain ⟨on, _⟩ := plays_through obliged_blank .zero billed concert (.inl next)
    (by decide +kernel) position (by decide +kernel) (by decide +kernel) (by decide +kernel)
  have plays := on (by decide +kernel)
  rw [completed, calls] at plays
  exact ⟨next, calls, plays⟩

end Core
end MediaPlayback
