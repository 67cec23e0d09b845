import MediaPlayback.Proofs.Engine.Course
import MediaPlayback.Proofs.Run

/-! What an action can do to a core. Most actions are no business of the engine's: they leave its
state alone, and messages may get to its mailbox. The others are listed in `Core.Moves`: the engine
takes a message or ends, and the host answers a prepare. -/

namespace MediaPlayback

namespace Core

variable {σ L : Type} [Surroundings σ L]

/-- Nothing is left over from a turn. -/
structure Settled (c : Core σ L) : Prop where
  posted : c.world.posted = []
  tasks : c.world.tasks = []

/-- From one core to another nothing happened that is the engine's business, but messages that are
not answers to prepares may have reached it. -/
structure Stays (c c' : Core σ L) : Prop where
  engine : c'.world.engine = c.world.engine
  mutters : c.world.Mutters c'.world
  settled : c'.Settled
  phase : c'.phase = c.phase
  mailbox : ∃ more, c'.mailbox = c.mailbox ++ more ∧ (∀ m ∈ more, m.isAnswer = false) ∧
    (c.phase ≠ .running → more = [])
  flights : c'.flights.map (·.task) = c.flights.map (·.task)

variable {c c' c'' : Core σ L}

omit [Surroundings σ L] in
theorem Stays.refl (settled : c.Settled) : c.Stays c :=
  ⟨rfl, .refl _, settled, rfl, ⟨[], by simp⟩, rfl⟩

omit [Surroundings σ L] in
theorem Stays.trans (first : c.Stays c') (second : c'.Stays c'') : c.Stays c'' := by
  obtain ⟨early, mailbox, plain, deaf⟩ := first.mailbox
  obtain ⟨late, mailbox', plain', deaf'⟩ := second.mailbox
  refine ⟨second.engine.trans first.engine, first.mutters.trans second.mutters, second.settled,
    second.phase.trans first.phase, ⟨early ++ late, ?_, ?_, ?_⟩, second.flights.trans first.flights⟩
  · rw [mailbox', mailbox, List.append_assoc]
  · intro m mem
    exact (List.mem_append.mp mem).elim (plain m) (plain' m)
  · intro still
    rw [deaf still, deaf' (first.phase ▸ still)]
    rfl

omit [Surroundings σ L] in
theorem post_stays (settled : c.Settled) {m : Message} (plain : m.isAnswer = false) :
    c.Stays (c.post m) := by
  unfold post
  split
  case isTrue running =>
    exact ⟨rfl, .refl _, ⟨settled.posted, settled.tasks⟩, rfl,
      ⟨[m], rfl, by simpa using plain, fun still => absurd running still⟩, rfl⟩
  case isFalse => exact .refl settled

theorem postWeakly_stays (settled : c.Settled) {m : Message} (plain : m.isAnswer = false) :
    c.Stays (c.postWeakly m) := by
  unfold postWeakly
  split
  case isTrue => exact post_stays settled plain
  case isFalse => exact .refl settled

omit [Surroundings σ L] in
/-- What a turn left is taken over: tasks become flights, and messages get to the mailbox of an
engine that runs. -/
theorem collect_eq (c : Core σ L) : c.collect = { c with
    mailbox := c.mailbox ++ if c.phase = .running then c.world.posted.map (·.1) else []
    flights := c.flights ++ c.world.tasks.map fun task => { task : Flight }
    world := { c.world with posted := [], tasks := [] } } := by
  -- Posting keeps the phase, so either all messages are appended or none is.
  have fold : ∀ (posted : List Command) (c : Core σ L),
      posted.foldl (fun c command => c.post command.1) c = { c with
        mailbox := c.mailbox ++ if c.phase = .running then posted.map (·.1) else [] } := by
    intro posted
    induction posted with
    | nil => simp
    | cons first rest ih =>
      intro c
      rw [List.foldl_cons, ih]
      unfold post
      split <;> simp [*]
  exact fold _ _

omit [Surroundings σ L] in
/-- The world may go on as long as the engine has no part in it. -/
theorem Stays.of_world (settled : c.Settled) (engine : c'.world.engine = c.world.engine)
    (mutters : c.world.Mutters c'.world) (posted : c'.world.posted = c.world.posted)
    (phase : c'.phase = c.phase) (mailbox : c'.mailbox = c.mailbox)
    (flights : c'.flights.map (·.task) = c.flights.map (·.task)) : c.Stays c' where
  engine := engine
  mutters := mutters
  settled := ⟨posted.trans settled.posted, mutters.tasks.trans settled.tasks⟩
  phase := phase
  mailbox := ⟨[], by rw [mailbox, List.append_nil], by simp, fun _ => rfl⟩
  flights := flights

omit [Surroundings σ L] in
theorem beginFlight_stays (settled : c.Settled) : c.Stays c.beginFlight := by
  unfold beginFlight
  split
  case h_1 => exact .refl settled
  case h_2 i found =>
    split
    case h_1 => exact .refl settled
    case h_2 flight at_i =>
      refine .of_world settled rfl (.of [_] rfl rfl rfl) rfl rfl rfl ?_
      apply List.ext_getElem?
      intro j
      rw [List.getElem?_map, List.getElem?_map, List.getElem?_set]
      split
      case isTrue same =>
        subst same
        obtain ⟨bound, _⟩ := List.getElem?_eq_some_iff.mp at_i
        rw [if_pos bound, at_i]
        rfl
      case isFalse => rfl

theorem beat_stays (settled : c.Settled) : c.Stays c.beat := by
  unfold beat
  split
  case h_1 => exact .refl settled
  case h_2 ticker ticks =>
    split
    case isTrue =>
      have ticked : c.Stays { c with
          ticker := some { ticker with next := ticker.next + ticker.period } } :=
        .of_world settled rfl (.refl _) rfl rfl rfl rfl
      exact ticked.trans (post_stays ticked.settled rfl)
    case isFalse => exact .of_world settled rfl (.of [_] rfl rfl rfl) rfl rfl rfl rfl

theorem recordFollower_stays (settled : c.Settled) (event : LifecycleEvent)
    (told : Told (Follower L) Command) : c.Stays (recordFollower event c told) := by
  unfold recordFollower
  split
  case h_1 => exact postWeakly_stays settled rfl
  case h_2 listener _ =>
    have mutters := World.recordTold_mutters event.notice c.world
      ⟨told.id, listener, told.posts, told.breakdown⟩
    have engine := World.recordTold_engine event.notice c.world
      ⟨told.id, listener, told.posts, told.breakdown⟩
    have tasks := mutters.tasks.trans settled.tasks
    dsimp only
    generalize World.recordTold event.notice c.world _ = w at mutters engine tasks ⊢
    rw [collect_eq]
    refine ⟨engine, ⟨mutters.trace, settled.tasks.symm⟩, ⟨rfl, rfl⟩, rfl,
      ⟨_, rfl, ?_, fun still => if_neg still⟩, ?_⟩
    · intro m mem
      split at mem
      case isTrue =>
        obtain ⟨command, _, rfl⟩ := List.mem_map.mp mem
        exact Message.isAnswer_of_isCommand command.2
      case isFalse => contradiction
    · simp [tasks]

theorem declare_stays (settled : c.Settled) (event : LifecycleEvent) :
    c.Stays (c.declare event) := by
  have fold : ∀ (told : List (Told (Follower L) Command)) (c : Core σ L), c.Settled →
      c.Stays (told.foldl (recordFollower event) c) := by
    intro told
    induction told with
    | nil => exact fun c settled => .refl settled
    | cons first rest ih =>
      intro c settled
      have one := recordFollower_stays settled event first
      exact one.trans (ih _ one.settled)
  unfold declare
  dsimp only
  generalize c.followers.notify (follow event) c.world.outside = notified
  have begun : c.Stays { c with
      followers := notified.2.1
      world := { c.world with outside := notified.2.2 } } :=
    .of_world settled rfl (.of [] rfl rfl rfl) rfl rfl rfl rfl
  have told := begun.trans (fold notified.1 _ begun.settled)
  split
  case isTrue =>
    refine told.trans ?_
    exact .of_world told.settled rfl (.of [_] rfl rfl rfl) rfl rfl rfl rfl
  case isFalse => exact told

omit [Surroundings σ L] in
theorem logSignal_mutters (w : World σ L) (entries : List (LogLevel × String)) :
    w.Mutters (w.logSignal entries) ∧ (w.logSignal entries).engine = w.engine ∧
    (w.logSignal entries).posted = w.posted := by
  induction entries generalizing w with
  | nil => exact ⟨.refl w, rfl, rfl⟩
  | cons entry rest ih =>
    obtain ⟨mutters, engine, posted⟩ := ih (w.log .lifecycle entry.1 entry.2 [])
    exact ⟨(w.log_mutters ..).trans mutters, engine, posted⟩

theorem absorb_stays (settled : c.Settled) (outcome : Signal.Outcome) :
    c.Stays (c.absorb outcome) := by
  obtain ⟨mutters, engine, posted⟩ := logSignal_mutters c.world outcome.log
  have logged : c.Stays { c with
      signal := outcome.signal
      world := c.world.logSignal outcome.log } :=
    .of_world settled engine mutters posted rfl rfl rfl
  unfold absorb
  dsimp only
  split
  case h_1 => exact logged
  case h_2 event _ => exact logged.trans (declare_stays logged.settled event)

theorem readAppState_stays (settled : c.Settled) : c.Stays c.readAppState := by
  unfold readAppState
  obtain ⟨result, outside, h⟩ := c.world.exists_call .appState
  rw [h]
  cases result with
  | ok state =>
    have asked : c.Stays { c with world := { c.world with
        outside, trace := .called .appState (.ok state) :: c.world.trace } } :=
      .of_world settled rfl (.of [_] rfl rfl rfl) rfl rfl rfl rfl
    dsimp only
    split
    · exact asked
    · exact asked.trans (absorb_stays asked.settled _)
  | error => exact .of_world settled rfl (.of [_, _] rfl rfl rfl) rfl rfl rfl rfl

theorem subscribeAppState_stays (settled : c.Settled) : c.Stays c.subscribeAppState.2 := by
  unfold subscribeAppState
  obtain ⟨result, outside, h⟩ := c.world.exists_call .subscribeAppState
  rw [h]
  cases result with
  | ok => exact .of_world settled rfl (.of [_] rfl rfl rfl) rfl rfl rfl rfl
  | error => exact .of_world settled rfl (.of [_, _] rfl rfl rfl) rfl rfl rfl rfl

theorem attach_stays (settled : c.Settled) : c.Stays c.attach.2 := by
  have read := readAppState_stays settled
  exact read.trans (subscribeAppState_stays read.settled)

theorem resolveItem_stays (settled : c.Settled) (transferId : String) :
    c.Stays (c.resolveItem transferId).2 := by
  have resolved : (c.world.resolveItem transferId).2.engine = c.world.engine ∧
      c.world.Mutters (c.world.resolveItem transferId).2 ∧
      (c.world.resolveItem transferId).2.posted = c.world.posted := by
    unfold World.resolveItem
    obtain ⟨result, outside, h⟩ := c.world.exists_call (.resolve transferId)
    rw [h]
    cases result with
    | error => exact ⟨rfl, .of [_] rfl rfl rfl, rfl⟩
    | ok attachment =>
      dsimp only
      obtain ⟨result, outside', h'⟩ := World.exists_call { c.world with
        outside, trace := .called (.resolve transferId) (.ok attachment) :: c.world.trace }
        (.conversationFor transferId)
      rw [h']
      cases result with
      | ok => exact ⟨rfl, .of [_, _] rfl rfl rfl, rfl⟩
      | error => exact ⟨rfl, .of [_, _, _] rfl rfl rfl, rfl⟩
  obtain ⟨engine, mutters, posted⟩ := resolved
  unfold resolveItem
  rcases h : c.world.resolveItem transferId with ⟨_ | item, w⟩ <;>
    rw [h] at engine mutters posted
  · exact .of_world settled engine mutters posted rfl rfl rfl
  · exact .of_world settled engine (mutters.trans (w.log_mutters ..)) posted rfl rfl rfl

/-- The core after its engine handled a message, with what waits then. -/
def turned (c : Core σ L) (m : Message) (mailbox : List Message) : Core σ L :=
  { c with
    mailbox
    flights := c.flights ++ (c.world.turn m).tasks.map fun task => { task : Flight }
    world := { c.world.turn m with posted := [], tasks := [] } }

@[simp] theorem turned_engine (c : Core σ L) (m : Message) (mailbox : List Message) :
    (c.turned m mailbox).world.engine = (c.world.turn m).engine := rfl

/-- What an action can do to a core. -/
inductive Moves (c : Core σ L) : Action σ L → Core σ L → Prop where
  /-- The engine takes no part. -/
  | stays {action : Action σ L} {c' : Core σ L} (untaken : c.takes action = [])
    (unreturned : c.returns action = []) (stays : c.Stays c') : Moves c action c'
  /-- The engine handles a message. -/
  | turns {m : Message} {rest posts : List Message} (running : c.phase = .running)
    (next : c.mailbox = m :: rest) (other : m ≠ .shutdown)
    (plain : ∀ post ∈ posts, post.isAnswer = false) :
    Moves c .take (c.turned m (rest ++ posts))
  /-- The engine ends, and the messages that wait are lost. -/
  | ends {action : Action σ L} {shown : Bool} {c' : Core σ L} (running : c.phase = .running)
    (cause : (action = .take ∧ ∃ rest, c.mailbox = .shutdown :: rest) ∨
      action = .close ∧ c.mailbox = [] ∧ c.isHeld = false)
    (ended : c'.phase = .ended) (lost : c'.mailbox = []) (flights : c'.flights = c.flights)
    (settled : c'.Settled) (engine : c'.world.engine = c.world.engine.cleared.published shown)
    (leads : World.Leads none c.world none c'.world) : Moves c action c'
  /-- The answer to a prepare gets to the mailbox. -/
  | delivers {request : Nat} {result : Except HostError PreparedSession} {flight : Flight}
    (asked : c.isAsked request) (found : c.flights.find? (·.task.request = request) = some flight)
    (listens : c.listens) : Moves c (.answer request result) { c with
      flights := c.flights.filter (·.task.request ≠ request)
      mailbox := c.mailbox ++ [.prepared request flight.task.item result] }
  /-- A prepare that failed is answered too late. -/
  | lapses {request : Nat} {failure : HostError} (asked : c.isAsked request)
    (deaf : c.listens = false) : Moves c (.answer request (.error failure)) { c with
      flights := c.flights.filter (·.task.request ≠ request) }
  /-- A session that comes too late is unloaded. -/
  | refuses {request : Nat} {prepared : PreparedSession} (asked : c.isAsked request)
    (deaf : c.listens = false) : Moves c (.answer request (.ok prepared)) { c with
      flights := c.flights.filter (·.task.request ≠ request)
      world := (c.world.call (.unload prepared.session)).2 }

/-- The engine ends: it gives everything back and starts nothing. -/
theorem finish_moves (settled : c.Settled) : c.finish.phase = .ended ∧ c.finish.mailbox = [] ∧
    c.finish.flights = c.flights ∧ c.finish.Settled ∧
    (∃ shown, c.finish.world.engine = c.world.engine.cleared.published shown) ∧
    World.Leads none c.world none c.finish.world := by
  obtain ⟨shown, engine⟩ := c.world.teardown_engine
  have leads : World.Leads none c.world none c.world.teardown := c.world.teardown_leads
  obtain ⟨effects, trace, tasks, comes⟩ := leads
  have starts : Effect.startsIn effects = [] := by
    have requests : c.world.teardown.engine.lastRequest = _ := comes.requests
    rw [engine] at requests
    exact List.eq_nil_of_length_eq_zero (Nat.add_eq_left.mp requests.symm)
  have none_left : c.world.teardown.tasks = [] := by
    rw [tasks, settled.tasks, starts]
    rfl
  unfold finish
  rw [collect_eq]
  dsimp only
  refine ⟨rfl, rfl, ?_, ⟨rfl, rfl⟩, ⟨shown, engine⟩, effects, trace, ?_, comes⟩
  · rw [none_left]
    exact List.append_nil c.flights
  · rw [settled.tasks, starts]
    rfl

theorem takeMessage_moves (settled : c.Settled) (running : c.phase = .running) :
    c.Moves .take c.takeMessage := by
  unfold takeMessage
  split
  case h_1 empty => exact .stays (by simp [takes, next?, empty]) rfl (.refl settled)
  case h_2 rest next =>
    let world := c.world.log .engine .trace "Engine command" [("command", Message.shutdown.name)]
    have logged : World.Leads none c.world none world := c.world.log_leads ..
    obtain ⟨phase, mailbox, flights, settled', ⟨shown, engine⟩, leads⟩ :=
      finish_moves (c := { c with world }) ⟨settled.posted, settled.tasks⟩
    exact .ends running (.inl ⟨rfl, rest, next⟩) phase mailbox flights
      ⟨settled'.posted, settled'.tasks⟩ engine ((logged.trans leads).trans (World.reply_leads _ _))
  case h_3 m rest other next =>
    rw [collect_eq]
    have plain : ∀ post ∈ (if c.phase = .running then (c.world.turn m).posted.map (·.1) else []),
        post.isAnswer = false := by
      intro post mem
      rw [if_pos running] at mem
      obtain ⟨command, _, rfl⟩ := List.mem_map.mp mem
      exact Message.isAnswer_of_isCommand command.2
    exact .turns running next other plain

theorem land_moves {request : Nat} (asked : c.isAsked request)
    (result : Except HostError PreparedSession) :
    c.Moves (.answer request result) (c.land request result) := by
  unfold land
  split
  case h_1 absent => simp [isAsked, absent] at asked
  case h_2 flight found =>
    dsimp only
    split
    case isTrue listens =>
      have running : c.phase = .running :=
        of_decide_eq_true (Bool.and_eq_true_iff.mp listens).1
      unfold post
      rw [if_pos running]
      exact .delivers asked found listens
    case isFalse deaf =>
      have deaf : c.listens = false := Bool.eq_false_iff.mpr deaf
      cases result with
      | ok prepared => exact .refuses asked deaf
      | error failure => exact .lapses asked deaf

/-- An action does nothing that `Core.Moves` does not list. -/
theorem act_moves (settled : c.Settled) (action : Action σ L) : c.Moves action (c.act action) := by
  have stays : ∀ {c' : Core σ L}, c.takes action = [] → c.returns action = [] → c.Stays c' →
      c.Moves action c' := .stays
  cases action with
  | command command =>
    exact stays rfl rfl (postWeakly_stays settled (Message.isAnswer_of_isCommand command.2))
  | output event => exact stays rfl rfl (postWeakly_stays settled rfl)
  | focus change => exact stays rfl rfl (postWeakly_stays settled rfl)
  | take =>
    rw [act]
    split
    case isTrue running => exact takeMessage_moves settled running
    case isFalse still => exact stays (by simp [takes, next?, still]) rfl (.refl settled)
  | close =>
    rw [act]
    split
    case isTrue idle =>
      rw [Bool.and_eq_true, decide_eq_true_eq, List.isEmpty_iff] at idle
      unfold endUnlessHeld
      split
      case isTrue => exact stays rfl rfl (.refl settled)
      case isFalse free =>
        obtain ⟨phase, mailbox, flights, settled', ⟨shown, engine⟩, leads⟩ := finish_moves settled
        exact .ends idle.1 (.inr ⟨rfl, idle.2, by simpa using free⟩) phase mailbox flights settled'
          engine leads
    case isFalse => exact stays rfl rfl (.refl settled)
  | ask => exact stays rfl rfl (beginFlight_stays settled)
  | answer request result =>
    rw [act]
    split
    case isTrue asked => exact land_moves asked result
    case isFalse unasked =>
      refine stays rfl ?_ (.refl settled)
      cases result <;> simp [returns, unasked]
  | beat => exact stays rfl rfl (beat_stays settled)
  | signal call => exact stays rfl rfl (absorb_stays settled _)
  | attach => exact stays rfl rfl (attach_stays settled)
  | resolve transferId => exact stays rfl rfl (resolveItem_stays settled transferId)
  | log entry =>
    exact stays rfl rfl (.of_world settled rfl (.of [_] rfl rfl rfl) rfl rfl rfl rfl)
  | change circumstances =>
    exact stays rfl rfl (.of_world settled rfl (.of [] rfl rfl rfl) rfl rfl rfl rfl)

/-- An engine that does not run never runs again. -/
theorem running_of_act (settled : c.Settled) {action : Action σ L}
    (running : (c.act action).phase = .running) : c.phase = .running := by
  have moves := act_moves settled action
  generalize c.act action = c' at moves running
  cases moves with
  | stays _ _ stays => exact stays.phase.symm.trans running
  | turns before | ends before => exact before
  | delivers | lapses | refuses => exact running

omit [Surroundings σ L] in
theorem mailbox_of_next {m : Message} (next : c.next? = some m) :
    c.phase = .running ∧ ∃ rest, c.mailbox = m :: rest := by
  unfold next? at next
  split at next
  case isFalse => contradiction
  case isTrue running => exact ⟨running, List.head?_eq_some_iff.mp next⟩

/-- The engine turns to a message that does not end it. -/
theorem act_take_eq {m : Message} (next : c.next? = some m) (other : m ≠ .shutdown) :
    c.act .take = collect { c with mailbox := c.mailbox.tail, world := c.world.turn m } := by
  obtain ⟨running, rest, mailbox⟩ := mailbox_of_next next
  rw [act, if_pos running, takeMessage]
  split
  case h_1 empty => simp [empty] at mailbox
  case h_2 rest' ends =>
    rw [ends] at mailbox
    exact absurd (List.cons.inj mailbox).1.symm other
  case h_3 m' rest' _ continues =>
    obtain ⟨rfl, rfl⟩ := List.cons.inj (continues.symm.trans mailbox)
    rw [continues]
    rfl

/-- The engine takes a message that does not end it. -/
theorem act_take {m : Message} (next : c.next? = some m)
    (other : m ≠ .shutdown) :
    c.phase = .running ∧ (∃ rest, c.mailbox = m :: rest) ∧
    (c.act .take).world = { c.world.turn m with posted := [], tasks := [] } := by
  obtain ⟨running, waiting⟩ := mailbox_of_next next
  refine ⟨running, waiting, ?_⟩
  rw [act_take_eq next other, collect_eq]

/-- What an action makes of the engine: nothing if the engine takes no message, what the message that
waits first makes of it, or an engine that ended. -/
theorem act_engine (settled : c.Settled) (action : Action σ L) :
    (c.takes action = [] ∧ (c.act action).world.engine = c.world.engine) ∨
    (∃ m e' shown, action = .take ∧ c.next? = some m ∧ c.world.engine.Handles m e' ∧
      (c.act action).world.engine = e'.published shown) ∨
    ∃ shown, (c.act action).world.engine = c.world.engine.cleared.published shown := by
  have moves := act_moves settled action
  generalize c.act action = c' at moves ⊢
  cases moves with
  | stays untaken _ stays => exact .inl ⟨untaken, stays.engine⟩
  | @turns m rest posts running next _ _ =>
    obtain ⟨e', shown, handles, turned⟩ := c.world.turn_engine m
    exact .inr (.inl ⟨m, e', shown, rfl, by simp [next?, running, next], handles, turned⟩)
  | ends _ _ _ _ _ _ engine => exact .inr (.inr ⟨_, engine⟩)
  | delivers => exact .inl ⟨rfl, rfl⟩
  | lapses => exact .inl ⟨rfl, rfl⟩
  | refuses => exact .inl ⟨rfl, rfl⟩

end Core
end MediaPlayback
