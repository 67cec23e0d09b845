import MediaPlayback.Proofs.Moves

/-! What holds of a core in every state of every run: the engine is coherent, the trace accounts for
what it holds and awaits, and every answer that is due belongs to a start of its own. -/

namespace MediaPlayback

/-- The request and the item of an answer to a prepare. -/
def Message.answered? : Message → Option (Nat × Item)
  | .prepared request item _ => some (request, item)
  | _ => none

theorem Message.answered?_eq_none {m : Message} (plain : m.isAnswer = false) :
    m.answered? = none := by
  cases m with
  | prepared => contradiction
  | _ => rfl

theorem answered_of_plain {messages : List Message} (plain : ∀ m ∈ messages, m.isAnswer = false) :
    messages.filterMap Message.answered? = [] :=
  List.filterMap_eq_nil_iff.mpr fun m mem => Message.answered?_eq_none (plain m mem)

/-- The request and the item of a task. -/
def PrepareTask.subject (task : PrepareTask) : Nat × Item := (task.request, task.item)

/-- Others know of the state and of the current item. -/
structure Engine.Announced (e : Engine) : Prop where
  state : e.lastState = e.mode.reported
  item : Item.SameOption e.cursor.currentItem? e.lastItem

theorem Engine.announced_published (e : Engine) (shown : Bool) :
    (e.published shown).Announced := by
  refine ⟨rfl, ?_⟩
  show Item.SameOption e.cursor.currentItem? e.announcedItem
  unfold Engine.announcedItem
  split
  case isTrue same => exact same
  case isFalse => exact Item.SameOption.refl _

theorem World.turn_announced {σ L : Type} [Surroundings σ L] (w : World σ L) (m : Message) :
    (w.turn m).engine.Announced := by
  obtain ⟨e, shown, _, turned⟩ := w.turn_engine m
  rw [turned]
  exact e.announced_published shown

namespace Core

variable {σ L : Type}

/-- There is no engine yet, and nothing happened that is the business of one. -/
structure Blank (c : Core σ L) : Prop where
  absent : c.phase = .absent
  mailbox : c.mailbox = []
  flights : c.flights = []
  settled : c.Settled
  asides : ∀ effect ∈ c.world.trace, effect.isAside

theorem obliged_blank : obliged.Blank :=
  ⟨rfl, rfl, rfl, ⟨rfl, rfl⟩, fun _ mem => absurd mem List.not_mem_nil⟩

/-- The answers that are due: those of prepares under way, and those that wait in the mailbox. -/
def due (c : Core σ L) : List (Nat × Item) :=
  c.flights.map (·.task.subject) ++ c.mailbox.filterMap Message.answered?

/-- What holds in every state of every run. -/
structure Sound (c : Core σ L) : Prop where
  settled : c.Settled
  coherent : c.world.engine.Coherent
  announced : c.world.engine.Announced
  accounts : (c.world.engine.holding none).Accounts c.world.trace
  /-- Every answer that is due is the answer to a prepare that was started. -/
  started : ∀ answer ∈ c.due, answer ∈ (Effect.startsIn c.world.trace).map (·.subject)
  /-- No two answers that are due are answers to one request. -/
  distinct : (c.due.map (·.1)).Nodup
  /-- An engine that does not run has nothing to do and holds nothing. -/
  idle : c.phase ≠ .running → c.mailbox = [] ∧ c.world.engine.mode = .idle

variable {c c' : Core σ L}

theorem Stays.due (stays : c.Stays c') : c'.due = c.due := by
  obtain ⟨more, mailbox, plain, _⟩ := stays.mailbox
  unfold Core.due
  rw [mailbox, List.filterMap_append, answered_of_plain plain, List.append_nil]
  have flights := congrArg (List.map PrepareTask.subject) stays.flights
  rw [List.map_map, List.map_map] at flights
  exact congrArg (· ++ _) flights

theorem Sound.stays (sound : c.Sound) (stays : c.Stays c') : c'.Sound := by
  obtain ⟨more, mailbox, plain, deaf⟩ := stays.mailbox
  have passes := World.Passes.mutters stays.mutters (c.world.engine.holding none)
  refine ⟨stays.settled, ?_, ?_, ?_, ?_, ?_, ?_⟩
  · rw [stays.engine]
    exact sound.coherent
  · rw [stays.engine]
    exact sound.announced
  · rw [stays.engine]
    exact passes.accounts sound.accounts
  · rw [stays.due, stays.mutters.startsIn]
    exact sound.started
  · rw [stays.due]
    exact sound.distinct
  · intro still
    rw [stays.phase] at still
    rw [stays.engine, mailbox, deaf still, List.append_nil]
    exact sound.idle still

theorem Sound.ends (sound : c.Sound) {shown : Bool} (lost : c'.mailbox = [])
    (flights : c'.flights = c.flights) (settled : c'.Settled)
    (engine : c'.world.engine = c.world.engine.cleared.published shown)
    (leads : World.Leads none c.world none c'.world) : c'.Sound := by
  have due : c'.due.Sublist c.due := by
    unfold due
    rw [flights, lost]
    exact (List.Sublist.refl _).append (List.nil_sublist _)
  refine ⟨settled, ?_, ?_, leads.accounts sound.accounts, ?_, ?_, ?_⟩
  · rw [engine]
    exact (Engine.Coherent.cleared _).published shown
  · rw [engine]
    exact Engine.announced_published _ shown
  · rw [leads.startsIn (settled.tasks.trans sound.settled.tasks.symm)]
    exact fun answer mem => sound.started answer (due.mem mem)
  · exact (due.map _).nodup sound.distinct
  · intro _
    rw [engine]
    exact ⟨lost, rfl⟩

/-- The prepare that was asked for is taken out of the air. -/
theorem Sound.delivers (sound : c.Sound) {request : Nat} {flight : Flight}
    (result : Except HostError PreparedSession)
    (found : c.flights.find? (·.task.request = request) = some flight)
    (running : c.phase = .running) :
    Sound { c with
      flights := c.flights.filter (·.task.request ≠ request)
      mailbox := c.mailbox ++ [.prepared request flight.task.item result] } := by
  have same : flight.task.request = request := by simpa using List.find?_some found
  have flying : flight.task.subject ∈ c.flights.map (·.task.subject) :=
    List.mem_map.mpr ⟨flight, List.mem_of_find?_eq_some found, rfl⟩
  have rest : (c.flights.filter (·.task.request ≠ request)).Sublist c.flights := List.filter_sublist
  have due : Core.due { c with
      flights := c.flights.filter (·.task.request ≠ request)
      mailbox := c.mailbox ++ [.prepared request flight.task.item result] } =
      (c.flights.filter (·.task.request ≠ request)).map (·.task.subject) ++
        c.mailbox.filterMap Message.answered? ++ [flight.task.subject] := by
    unfold Core.due
    dsimp only
    rw [List.filterMap_append, List.append_assoc, ← same]
    rfl
  have kept : ((c.flights.filter (·.task.request ≠ request)).map (·.task.subject) ++
      c.mailbox.filterMap Message.answered?).Sublist c.due := (rest.map _).append (.refl _)
  refine ⟨⟨sound.settled.posted, sound.settled.tasks⟩, sound.coherent, sound.announced,
    sound.accounts, ?_, ?_, fun still => absurd running still⟩
  · rw [due]
    intro answer mem
    rcases List.mem_append.mp mem with mem | mem
    · exact sound.started answer (kept.mem mem)
    · rw [List.mem_singleton.mp mem]
      exact sound.started _ (List.mem_append_left _ flying)
  · rw [due, List.map_append, List.nodup_append]
    refine ⟨(kept.map _).nodup sound.distinct, by simp, ?_⟩
    have distinct := sound.distinct
    unfold Core.due at distinct
    rw [List.map_append, List.nodup_append] at distinct
    intro id mem _ mem' equal
    rw [List.map_singleton, List.mem_singleton] at mem'
    subst equal mem'
    rw [List.map_append, List.mem_append] at mem
    rcases mem with mem | mem
    -- The prepare itself was taken out.
    · obtain ⟨answer, mem, equal⟩ := List.mem_map.mp mem
      obtain ⟨other, mem', rfl⟩ := List.mem_map.mp mem
      have different : other.task.request ≠ request := by simpa using (List.mem_filter.mp mem').2
      exact different (equal.trans same)
    -- Its answer did not wait yet.
    · exact distinct.2.2 _ (List.mem_map_of_mem flying) _ mem rfl

/-- A prepare that is taken out of the air need not be answered. -/
theorem Sound.lapses (sound : c.Sound) (request : Nat)
    (engine : c'.world.engine = c.world.engine) (settled : c'.Settled)
    (accounts : (c.world.engine.holding none).Accounts c'.world.trace)
    (starts : Effect.startsIn c'.world.trace = Effect.startsIn c.world.trace)
    (phase : c'.phase = c.phase) (mailbox : c'.mailbox = c.mailbox)
    (flights : c'.flights = c.flights.filter (·.task.request ≠ request)) : c'.Sound := by
  have due : c'.due.Sublist c.due := by
    unfold due
    rw [flights, mailbox]
    exact (List.filter_sublist.map _).append (.refl _)
  refine ⟨settled, ?_, ?_, ?_, ?_, ?_, ?_⟩
  · rw [engine]
    exact sound.coherent
  · rw [engine]
    exact sound.announced
  · rw [engine]
    exact accounts
  · rw [starts]
    exact fun answer mem => sound.started answer (due.mem mem)
  · exact (due.map _).nodup sound.distinct
  · rw [phase, mailbox, engine]
    exact sound.idle

variable [Surroundings σ L] {action : Action σ L}

/-- An engine starts with nothing, and nothing in the trace is its business. -/
theorem launch_world (blank : c.Blank) (interval : Duration) :
    (c.launch interval).world.engine = { backgrounded := c.signal.background } ∧
    (c.launch interval).world.posted = [] ∧
    World.Mutters { c.world with trace := [] } (c.launch interval).world := by
  obtain ⟨outside, trace, up⟩ :=
    World.exists_startUp { c.world with engine := { backgrounded := c.signal.background } }
  have before : World.Mutters { c.world with trace := [] }
      { c.world with engine := { backgrounded := c.signal.background } } :=
    ⟨⟨c.world.trace, (List.append_nil _).symm, blank.asides⟩, rfl⟩
  exact ⟨congrArg World.engine up, (congrArg World.posted up).trans blank.settled.posted,
    before.trans (World.startUp_mutters _)⟩

theorem Sound.launch (blank : c.Blank) (interval : Duration) : (c.launch interval).Sound := by
  obtain ⟨started, posted, mutters⟩ := launch_world blank interval
  have nothing : ((c.launch interval).world.engine.holding none).Accounts (L := L) [] := by
    rw [started]
    exact ⟨rfl, rfl, nofun⟩
  have due : (c.launch interval).due = [] := by
    show c.flights.map _ ++ c.mailbox.filterMap _ = []
    rw [blank.flights, blank.mailbox]
    rfl
  refine ⟨⟨posted, mutters.tasks.trans blank.settled.tasks⟩, ?_, ?_,
    (World.Passes.mutters mutters _).accounts nothing, ?_, ?_, fun still => absurd rfl still⟩
  · rw [started]
    exact ⟨rfl, nofun⟩
  · rw [started]
    exact ⟨rfl, trivial⟩
  · rw [due]
    nofun
  · rw [due]
    exact List.nodup_nil

/-- After a turn the trace still accounts for the engine, and what the turn started are its
tasks. -/
theorem Sound.turn_starts (sound : c.Sound) (m : Message) :
    ((c.world.turn m).engine.holding none).Accounts (c.world.turn m).trace ∧
    Effect.startsIn (c.world.turn m).trace =
      (c.world.turn m).tasks.reverse ++ Effect.startsIn c.world.trace := by
  obtain ⟨hand', _, effects, trace, tasks, comes⟩ := c.world.turn_leads m sound.coherent
  have before : (c.world.engine.holding m.handed?).Accounts c.world.trace :=
    ⟨sound.accounts.focused, sound.accounts.requests, sound.accounts.awaited⟩
  have after := before.comes comes
  rw [← trace] at after
  refine ⟨⟨after.focused, after.requests, after.awaited⟩, ?_⟩
  rw [trace, Effect.startsIn_append, tasks, sound.settled.tasks, List.nil_append,
    List.reverse_reverse]

theorem Sound.turns (sound : c.Sound) {m : Message} {rest posts : List Message}
    (running : c.phase = .running) (next : c.mailbox = m :: rest)
    (plain : ∀ post ∈ posts, post.isAnswer = false) : (c.turned m (rest ++ posts)).Sound := by
  obtain ⟨accounts, starts⟩ := sound.turn_starts m
  let old := c.flights.map (·.task.subject) ++ rest.filterMap Message.answered?
  have kept : old.Sublist c.due := by
    unfold due
    rw [next]
    exact (List.Sublist.refl _).append ((List.sublist_cons_self m rest).filterMap _)
  -- New prepares stand in front of the answers that wait, but the order does not matter here.
  have due : (c.turned m (rest ++ posts)).due.Perm
      (old ++ (c.world.turn m).tasks.map (·.subject)) := by
    unfold Core.due turned
    dsimp only
    rw [List.filterMap_append, answered_of_plain plain, List.append_nil, List.map_append,
      List.map_map, List.append_assoc, List.append_assoc]
    exact List.perm_append_comm.append_left _
  refine ⟨⟨rfl, rfl⟩, ?_, ?_, accounts, ?_, ?_, ?_⟩
  · exact c.world.turn_coherent m sound.coherent
  · exact c.world.turn_announced m
  · intro answer mem
    show answer ∈ (Effect.startsIn (c.world.turn m).trace).map (·.subject)
    rw [starts, List.map_append, List.mem_append]
    rcases List.mem_append.mp (due.mem_iff.mp mem) with mem | mem
    · exact .inr (sound.started answer (kept.mem mem))
    · exact .inl (by simpa using mem)
  · rw [(due.map _).nodup_iff, List.map_append, List.nodup_append]
    -- What the turn started has numbers that no earlier start has.
    have fresh := accounts.nodup
    rw [starts, List.map_append, List.nodup_append] at fresh
    obtain ⟨new, _, apart⟩ := fresh
    refine ⟨(kept.map _).nodup sound.distinct, ?_, ?_⟩
    · rw [List.map_map]
      rw [List.map_reverse, (List.reverse_perm _).nodup_iff] at new
      exact new
    · intro id due_before id' fresh same
      subst same
      obtain ⟨answer, mem, rfl⟩ := List.mem_map.mp due_before
      obtain ⟨task, mem', same⟩ := List.mem_map.mp (sound.started answer (kept.mem mem))
      refine apart answer.1 (by simpa [PrepareTask.subject] using fresh) answer.1 ?_ rfl
      exact List.mem_map.mpr ⟨task, mem', congrArg Prod.fst same⟩
  · exact fun still => absurd running still

theorem Sound.moves (sound : c.Sound) (moves : c.Moves action c') : c'.Sound := by
  cases moves with
  | stays _ _ stays => exact sound.stays stays
  | turns running next _ plain => exact sound.turns running next plain
  | ends _ _ _ lost flights settled engine leads =>
    exact sound.ends lost flights settled engine leads
  | @delivers request result flight asked found listens =>
    exact sound.delivers result found (of_decide_eq_true (Bool.and_eq_true_iff.mp listens).1)
  | @lapses request failure asked deaf =>
    exact sound.lapses request rfl ⟨sound.settled.posted, sound.settled.tasks⟩ sound.accounts rfl
      rfl rfl rfl
  | @refuses request prepared asked deaf =>
    exact sound.lapses request rfl ⟨sound.settled.posted, sound.settled.tasks⟩
      ⟨sound.accounts.focused, sound.accounts.requests, sound.accounts.awaited⟩ rfl rfl rfl rfl

theorem Sound.act (sound : c.Sound) (action : Action σ L) : (c.act action).Sound :=
  sound.moves (act_moves sound.settled action)

/-- The core is sound after every run. -/
theorem Sound.after (sound : c.Sound) (actions : List (Action σ L)) : (c.after actions).Sound := by
  induction actions generalizing c with
  | nil => exact sound
  | cons action rest ih => exact ih (sound.act action)

theorem Sound.running_of_after (sound : c.Sound) (actions : List (Action σ L))
    (running : (c.after actions).phase = .running) : c.phase = .running := by
  induction actions generalizing c with
  | nil => exact running
  | cons action rest ih => exact running_of_act sound.settled (ih (sound.act action) running)

/-- What no message that an engine takes can break, neither publishing nor ending, holds of the
engine after every run. -/
theorem Sound.engine_after {P : Engine → Prop} (sound : c.Sound) (holds : P c.world.engine)
    (handles : ∀ {c : Core σ L} {m : Message} {e' : Engine}, c.Sound → c.next? = some m →
      P c.world.engine → c.world.engine.Handles m e' → P e')
    (published : ∀ {e : Engine} (shown : Bool), P e → P (e.published shown))
    (cleared : ∀ e : Engine, P e.cleared) (actions : List (Action σ L)) :
    P (c.after actions).world.engine := by
  induction actions generalizing c with
  | nil => exact holds
  | cons action rest ih =>
    refine ih (sound.act action) ?_
    rcases act_engine sound.settled action with
      ⟨_, same⟩ | ⟨m, e', shown, _, next, step, turned⟩ | ⟨shown, ended⟩
    · rw [same]
      exact holds
    · rw [turned]
      exact published shown (handles sound next holds step)
    · rw [ended]
      exact published shown (cleared _)

end Core
end MediaPlayback
