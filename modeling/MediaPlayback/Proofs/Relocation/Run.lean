import MediaPlayback.Log.Setup
import MediaPlayback.Proofs.Relocation.Turn
import MediaPlayback.Proofs.Run

/-! Runs of two cores whose files are in different directories. Actions that correspond lead from cores
that correspond to cores that correspond, so the logs of whole runs do. -/

namespace MediaPlayback

section Lists

variable {α β : Type} {R : α → β → Prop} {xs : List α} {ys : List β}

theorem find?_of_forall₂ {p : α → Bool} {q : β → Bool} (related : List.Forall₂ R xs ys)
    (agree : ∀ x y, R x y → q y = p x) : Option.Rel R (xs.find? p) (ys.find? q) := by
  induction related with
  | nil => exact .none
  | @cons x y _ _ head _ ih =>
    rw [List.find?_cons, List.find?_cons, agree x y head]
    cases p x with
    | true => exact .some head
    | false => exact ih

theorem forall₂_set (related : List.Forall₂ R xs ys) {x : α} {y : β} (new : R x y) (i : Nat) :
    List.Forall₂ R (xs.set i x) (ys.set i y) := by
  induction related generalizing i with
  | nil => exact .nil
  | cons head rest ih =>
    cases i with
    | zero => exact .cons new rest
    | succ i => exact .cons head (ih i)

end Lists

/-- The same prepare, with its file in the place that it was moved to. -/
structure Flight.Moved (m : FileMove) (flight flight' : Flight) : Prop where
  task : flight.task.Moved m flight'.task
  begun : flight'.begun = flight.begun

variable {σ L : Type} [Surroundings σ L]

/-- The same circumstances, with what is outside in the other run. -/
structure Circumstances.Moved (r : Relocation σ L) (x x' : Circumstances σ L) : Prop where
  outside : r.outside x.outside x'.outside
  listeners : x'.listeners = x.listeners
  followers : x'.followers = x.followers
  catalog : x'.catalog = x.catalog
  entropy : x'.entropy = x.entropy
  handles : x'.handles = x.handles
  now : x'.now = x.now

/-- Whether an action is neither a command nor a change of the circumstances. -/
def Action.isPlain : Action σ L → Bool
  | .command _ | .change _ => false
  | _ => true

/-- The same action, with its files in the places that they were moved to. -/
inductive Action.Moved (r : Relocation σ L) : Action σ L → Action σ L → Prop where
  | command {command command' : Command} (commands : command.Moved r.toFileMove command') :
    Moved r (.command command) (.command command')
  | change {x x' : Circumstances σ L} (circumstances : x.Moved r x') : Moved r (.change x) (.change x')
  | same {action : Action σ L} (plain : action.isPlain) : Moved r action action

theorem World.Moved.logSignal {r : Relocation σ L} {w w' : World σ L} (moved : w.Moved r w')
    (entries : List (LogLevel × String)) : (w.logSignal entries).Moved r (w'.logSignal entries) := by
  unfold World.logSignal
  induction entries generalizing w w' with
  | nil => exact moved
  | cons entry rest ih => exact ih (moved.log ..)

/-- A transfer is resolved to an item in its other place, or not at all. -/
theorem World.Moved.resolveItem {r : Relocation σ L} {w w' : World σ L} (moved : w.Moved r w')
    (transferId : String) :
    (∃ e v v', w.resolveItem transferId = (.error e, v) ∧
      w'.resolveItem transferId = (.error e, v') ∧ v.Moved r v') ∨
    ∃ item item' v v', w.resolveItem transferId = (.ok item, v) ∧
      w'.resolveItem transferId = (.ok item', v') ∧ item.Moved r.toFileMove item' ∧
      v.Moved r v' := by
  obtain ⟨result, result', v, v', h, h', results, moved⟩ := moved.resolve transferId
  unfold World.resolveItem
  rw [h, h']
  cases results with
  | error e => exact .inl ⟨_, _, _, rfl, rfl, moved⟩
  | @ok a a' attachments =>
    have made : ∀ {v v' : World σ L} (conversation : Option Conversation), v.Moved r v' →
        (v.catalog.ofAttachment transferId a conversation).1.Moved r.toFileMove
            (v'.catalog.ofAttachment transferId a' conversation).1 ∧
          Moved r { v with catalog := (v.catalog.ofAttachment transferId a conversation).2 }
            { v' with catalog := (v'.catalog.ofAttachment transferId a' conversation).2 } := by
      intro v v' conversation moved
      obtain ⟨items, catalogs⟩ := attachments.item v.catalog transferId conversation
      rw [moved.catalog]
      exact ⟨items, { moved with catalog := catalogs }⟩
    obtain ⟨answer, u, u', g, g', moved⟩ := moved.call (.conversationFor transferId) nofun
    dsimp only
    rw [g, g']
    cases answer with
    | ok conversation =>
      obtain ⟨items, moved⟩ := made conversation moved
      exact .inr ⟨_, _, _, _, rfl, rfl, items, moved⟩
    | error e =>
      obtain ⟨items, moved⟩ := made none (moved.log .item .debug "Conversation lookup failed"
        [("transfer_id", transferId), ("error", e.message)])
      exact .inr ⟨_, _, _, _, rfl, rfl, items, moved⟩

theorem LifecycleEvent.notice_moved (event : LifecycleEvent) (m : FileMove) :
    event.notice.Moved m event.notice := by
  cases event with
  | becameForeground => exact .becameForeground
  | becameBackground => exact .becameBackground

theorem Engine.Moved.fresh (m : FileMove) (backgrounded : Bool) :
    Engine.Moved m { backgrounded } { backgrounded } :=
  ⟨.idle, ⟨.none, rfl, rfl, rfl, rfl⟩, rfl, rfl, rfl, rfl, rfl, rfl, rfl, .none, rfl⟩

namespace Core

/-- The same core, with its files in the places that they were moved to. -/
structure Moved (r : Relocation σ L) (c c' : Core σ L) : Prop where
  world : c.world.Moved r c'.world
  phase : c'.phase = c.phase
  mailbox : List.Forall₂ (Message.Moved r.toFileMove) c.mailbox c'.mailbox
  handles : c'.handles = c.handles
  flights : List.Forall₂ (Flight.Moved r.toFileMove) c.flights c'.flights
  signal : c'.signal = c.signal
  publishes : c'.publishes = c.publishes
  followers : c'.followers = c.followers
  engineFollower : c'.engineFollower = c.engineFollower
  now : c'.now = c.now
  ticker : c'.ticker = c.ticker

namespace Moved

variable {r : Relocation σ L} {c c' : Core σ L}

theorem post (moved : c.Moved r c') {message message' : Message}
    (messages : message.Moved r.toFileMove message') : (c.post message).Moved r (c'.post message') := by
  unfold Core.post
  rw [moved.phase]
  split
  · have mailbox := List.rel_append moved.mailbox (.cons messages .nil)
    exact { moved with phase := rfl, mailbox := mailbox }
  · exact moved

theorem collect (moved : c.Moved r c') : c.collect.Moved r c'.collect := by
  have fold : ∀ {posted posted' : List Command},
      List.Forall₂ (Command.Moved r.toFileMove) posted posted' → ∀ {c c' : Core σ L}, c.Moved r c' →
      (posted.foldl (fun c command => c.post command.1) c).Moved r
        (posted'.foldl (fun c command => c.post command.1) c') := by
    intro posted posted' related
    induction related with
    | nil => exact fun moved => moved
    | cons first _ ih => exact fun moved => ih (moved.post first)
  have flown : List.Forall₂ (Flight.Moved r.toFileMove)
      (c.world.tasks.map fun task => { task : Flight })
      (c'.world.tasks.map fun task => { task : Flight }) :=
    List.rel_map (fun _ _ tasks => ⟨tasks, rfl⟩) moved.world.tasks
  unfold Core.collect
  refine fold moved.world.posted { moved with world := ?_, flights := ?_ }
  · exact { moved.world with posted := .nil, tasks := .nil }
  · exact List.rel_append moved.flights flown

theorem isHeld (moved : c.Moved r c') : c'.isHeld = c.isHeld := by
  unfold Core.isHeld
  rw [moved.handles, moved.world.listeners]
  congr 2
  funext entry
  exact r.keepsRunning moved.world.outside entry.2

theorem postWeakly (moved : c.Moved r c') {message message' : Message}
    (messages : message.Moved r.toFileMove message') :
    (c.postWeakly message).Moved r (c'.postWeakly message') := by
  unfold Core.postWeakly
  rw [moved.isHeld]
  split
  · exact moved.post messages
  · exact moved

theorem launch (moved : c.Moved r c') (interval : Duration) :
    (c.launch interval).Moved r (c'.launch interval) := by
  have started : World.Moved r
      { c.world with engine := { backgrounded := c.signal.background } }.startUp
      { c'.world with engine := { backgrounded := c.signal.background } }.startUp :=
    World.Moved.startUp { moved.world with engine := .fresh _ _ }
  unfold Core.launch
  rw [moved.signal, moved.followers, moved.handles, moved.now]
  exact { moved with
    world := started
    phase := rfl
    handles := rfl
    signal := rfl
    followers := rfl
    engineFollower := rfl
    now := rfl
    ticker := rfl }

theorem finish (moved : c.Moved r c') : c.finish.Moved r c'.finish := by
  unfold Core.finish
  rw [moved.followers, moved.engineFollower]
  refine collect ?_
  exact { moved with
    world := moved.world.teardown
    phase := rfl
    mailbox := .nil
    followers := rfl
    engineFollower := rfl
    ticker := rfl }

theorem takeMessage (moved : c.Moved r c') : c.takeMessage.Moved r c'.takeMessage := by
  have mailboxes := moved.mailbox
  unfold Core.takeMessage
  generalize c.mailbox = mailbox, c'.mailbox = mailbox' at mailboxes
  cases mailboxes with
  | nil => exact moved
  | @cons message message' rest rest' messages later =>
    have turned : Moved r
        (Core.collect { c with mailbox := rest, world := c.world.turn message })
        (Core.collect { c' with mailbox := rest', world := c'.world.turn message' }) :=
      collect { moved with mailbox := later, world := moved.world.turn messages }
    cases messages with
    | playItem | playInPlaylist | setPlaylist | prepared => exact turned
    | same nameless =>
      cases message with
      | playItem | playInPlaylist | setPlaylist | prepared => contradiction
      | shutdown =>
        have noted := moved.world.log .engine .trace "Engine command"
          [("command", Message.shutdown.name)]
        have told : Moved r { c with world := _ } { c' with world := _ } :=
          { moved with world := noted }
        have finished := told.finish
        exact { finished with world := finished.world.reply _ _ }
      | _ => exact turned

theorem endUnlessHeld (moved : c.Moved r c') : c.endUnlessHeld.Moved r c'.endUnlessHeld := by
  unfold Core.endUnlessHeld
  rw [moved.isHeld]
  split
  · exact moved
  · exact moved.finish

theorem beginFlight (moved : c.Moved r c') : c.beginFlight.Moved r c'.beginFlight := by
  have place := findIdx?_of_forall₂ (p := (! ·.begun)) (q := (! ·.begun))
    moved.flights fun _ _ flights => congrArg not flights.begun
  unfold Core.beginFlight
  rw [place]
  split
  · exact moved
  case h_2 i _ =>
    have flights := getElem?_of_forall₂ moved.flights i
    generalize c.flights[i]? = flight, c'.flights[i]? = flight' at flights
    cases flights with
    | none => exact moved
    | @some flight flight' flights =>
      have begun : Flight.Moved r.toFileMove { flight with begun := true }
          { flight' with begun := true } := ⟨flights.task, rfl⟩
      exact { moved with
        flights := forall₂_set moved.flights begun i
        world := moved.world.unlogged _ _ rfl rfl }

/-- The prepare that an answer is for. -/
theorem flight (moved : c.Moved r c') (request : Nat) :
    Option.Rel (Flight.Moved r.toFileMove) (c.flights.find? (·.task.request = request))
      (c'.flights.find? (·.task.request = request)) :=
  find?_of_forall₂ moved.flights fun _ _ flights => by rw [flights.task.request]

theorem isAsked (moved : c.Moved r c') (request : Nat) : c'.isAsked request = c.isAsked request := by
  have flights := moved.flight request
  unfold Core.isAsked
  generalize c.flights.find? _ = flight, c'.flights.find? _ = flight' at flights
  cases flights with
  | none => rfl
  | some flights => exact flights.begun

theorem land (moved : c.Moved r c') (request : Nat) (result : Except HostError PreparedSession) :
    (c.land request result).Moved r (c'.land request result) := by
  have flights := moved.flight request
  unfold Core.land
  generalize c.flights.find? _ = flight, c'.flights.find? _ = flight' at flights
  cases flights with
  | none => exact moved
  | some flights =>
    have landed : Moved r { c with flights := c.flights.filter (·.task.request ≠ request) }
        { c' with flights := c'.flights.filter (·.task.request ≠ request) } := by
      refine { moved with flights := List.rel_filter ?_ moved.flights }
      intro _ _ flights
      simp [flights.task.request]
    have heard : (c'.phase = .running &&
        Core.isHeld { c' with flights := c'.flights.filter (·.task.request ≠ request) }) =
      (c.phase = .running &&
        Core.isHeld { c with flights := c.flights.filter (·.task.request ≠ request) }) := by
      rw [landed.isHeld, moved.phase]
    dsimp only
    rw [heard]
    split
    · exact landed.post (.prepared flights.task.item request result)
    · cases result with
      | error => exact landed
      | ok prepared =>
        obtain ⟨_, v, v', h, h', unloaded⟩ := landed.world.call (.unload prepared.session) nofun
        dsimp only
        rw [h, h']
        exact { landed with world := unloaded }

theorem beat (moved : c.Moved r c') : c.beat.Moved r c'.beat := by
  have tick : Message.Moved r.toFileMove .tick .tick := .same rfl
  have wound : ∀ ticker : Option Ticker, Moved r { c with ticker } { c' with ticker } :=
    fun _ => { moved with ticker := rfl }
  unfold Core.beat
  rw [moved.ticker, moved.isHeld]
  split
  · exact moved
  · split
    · exact (wound _).post tick
    · exact { wound none with world := moved.world.log .. }

theorem recordFollower (moved : c.Moved r c') (event : LifecycleEvent)
    {told told' : Told (Follower L) Command} (tolds : told.Moved r.toFileMove told') :
    (recordFollower event c told).Moved r (recordFollower event c' told') := by
  have heard : Message.Moved r.toFileMove (.lifecycle event) (.lifecycle event) := .same rfl
  have notices := event.notice_moved r.toFileMove
  unfold Core.recordFollower
  rw [tolds.listener]
  split
  · exact moved.postWeakly heard
  · exact collect { moved with
      world := moved.world.recordTold notices ⟨tolds.id, rfl, tolds.posts, tolds.breakdown⟩ }

theorem announce (moved : c.Moved r c') (event : LifecycleEvent) : Moved r
    (if c.publishes then { c with world := c.world.record (.emitted (.lifecycle event)) } else c)
    (if c'.publishes then { c' with world := c'.world.record (.emitted (.lifecycle event)) }
      else c') := by
  rw [moved.publishes]
  split
  · exact { moved with publishes := rfl, world := moved.world.unlogged _ _ rfl rfl }
  · exact moved

theorem declare (moved : c.Moved r c') (event : LifecycleEvent) :
    (c.declare event).Moved r (c'.declare event) := by
  have notices := event.notice_moved r.toFileMove
  have reacts : ∀ (reg : Registry (Follower L)) (id : ListenerId) (follower : Follower L) (o o' : σ),
      r.outside o o' → (follow event reg id follower o).1.Moved r.toFileMove
          (follow event reg id follower o').1 ∧
        r.outside (follow event reg id follower o).2 (follow event reg id follower o').2 := by
    intro reg id follower o o' outside
    cases follower with
    | engine => exact ⟨⟨rfl, .nil, rfl⟩, outside⟩
    | listener listener =>
      obtain ⟨reactions, outside⟩ := r.reacts outside reg.next id listener notices
      exact ⟨⟨congrArg (List.map _) reactions.edits, reactions.posts, reactions.breakdown⟩, outside⟩
  obtain ⟨tolds, followers, outside⟩ :=
    Registry.tell_moved reacts c.followers.entries c.followers moved.world.outside
  have fold : ∀ {tolds tolds' : List (Told (Follower L) Command)},
      List.Forall₂ (Told.Moved r.toFileMove) tolds tolds' → ∀ {c c' : Core σ L}, c.Moved r c' →
      (tolds.foldl (Core.recordFollower event) c).Moved r
        (tolds'.foldl (Core.recordFollower event) c') := by
    intro tolds tolds' related
    induction related with
    | nil => exact fun moved => moved
    | cons first _ ih => exact fun moved => ih (moved.recordFollower event first)
  unfold Core.declare Registry.notify
  rw [moved.followers]
  generalize Registry.tell (follow event) c.followers.entries c.followers c.world.outside = round,
    Registry.tell (follow event) c.followers.entries c.followers c'.world.outside = round'
    at tolds followers outside
  obtain ⟨told, left, after⟩ := round
  obtain ⟨told', left', after'⟩ := round'
  have begun : Moved r
      { c with followers := left, world := { c.world with outside := after } }
      { c' with followers := left', world := { c'.world with outside := after' } } :=
    { moved with followers := followers, world := { moved.world with outside := outside } }
  exact announce (fold tolds begun) event

theorem absorb (moved : c.Moved r c') (outcome : Signal.Outcome) :
    (c.absorb outcome).Moved r (c'.absorb outcome) := by
  have noted : Moved r
      { c with signal := outcome.signal, world := c.world.logSignal outcome.log }
      { c' with signal := outcome.signal, world := c'.world.logSignal outcome.log } :=
    { moved with signal := rfl, world := moved.world.logSignal outcome.log }
  unfold Core.absorb
  cases outcome.declared with
  | none => exact noted
  | some event => exact noted.declare event

theorem rawBackground (moved : c.Moved r c') : c.rawBackground.Moved r c'.rawBackground := by
  have outcome : c'.signal.rawBackground c'.now = c.signal.rawBackground c.now := by
    rw [moved.signal, moved.now]
  unfold Core.rawBackground
  rw [outcome]
  exact moved.absorb _

theorem readAppState (moved : c.Moved r c') : c.readAppState.Moved r c'.readAppState := by
  unfold Core.readAppState
  obtain ⟨answer, v, v', h, h', worlds⟩ := moved.world.call .appState nofun
  rw [h, h']
  cases answer with
  | error e => exact { moved with world := worlds.log .. }
  | ok state =>
    have told : Moved r { c with world := v } { c' with world := v' } :=
      { moved with world := worlds }
    dsimp only
    split
    · exact told
    · exact told.rawBackground

theorem subscribeAppState (moved : c.Moved r c') :
    c.subscribeAppState.2.Moved r c'.subscribeAppState.2 := by
  unfold Core.subscribeAppState
  obtain ⟨answer, v, v', h, h', worlds⟩ := moved.world.call .subscribeAppState nofun
  rw [h, h']
  cases answer with
  | ok => exact { moved with world := worlds }
  | error e => exact { moved with world := worlds.log .. }

theorem attach (moved : c.Moved r c') : c.attach.2.Moved r c'.attach.2 :=
  moved.readAppState.subscribeAppState

theorem resolveItem (moved : c.Moved r c') (transferId : String) :
    (c.resolveItem transferId).2.Moved r (c'.resolveItem transferId).2 := by
  unfold Core.resolveItem
  rcases moved.world.resolveItem transferId with
    ⟨e, v, v', h, h', worlds⟩ | ⟨item, item', v, v', h, h', items, worlds⟩
  · rw [h, h']
    exact { moved with world := worlds }
  · rw [h, h']
    dsimp only
    rw [items.fileName]
    exact { moved with world := worlds.log .. }

theorem setCircumstances (moved : c.Moved r c') {x x' : Circumstances σ L}
    (circumstances : x.Moved r x') : (c.setCircumstances x).Moved r (c'.setCircumstances x') :=
  { moved with
    world := { moved.world with
      outside := circumstances.outside
      listeners := circumstances.listeners
      catalog := circumstances.catalog
      entropy := circumstances.entropy }
    followers := circumstances.followers
    handles := circumstances.handles
    now := circumstances.now }

theorem act (moved : c.Moved r c') {action action' : Action σ L} (actions : action.Moved r action') :
    (c.act action).Moved r (c'.act action') := by
  cases actions with
  | command commands => exact moved.postWeakly commands
  | change circumstances => exact moved.setCircumstances circumstances
  | same plain =>
    cases action with
    | command | change => contradiction
    | output event =>
      have reported : Message.Moved r.toFileMove (.output event) (.output event) := .same rfl
      exact moved.postWeakly reported
    | focus change =>
      have reported : Message.Moved r.toFileMove (.focus change) (.focus change) := .same rfl
      exact moved.postWeakly reported
    | take =>
      unfold Core.act
      dsimp only
      rw [moved.phase]
      split
      · exact moved.takeMessage
      · exact moved
    | close =>
      have empty : c'.mailbox.isEmpty = c.mailbox.isEmpty := by
        have mailboxes := moved.mailbox
        generalize c.mailbox = mailbox, c'.mailbox = mailbox' at mailboxes
        cases mailboxes <;> rfl
      unfold Core.act
      dsimp only
      rw [moved.phase, empty]
      split
      · exact moved.endUnlessHeld
      · exact moved
    | ask => exact moved.beginFlight
    | answer request result =>
      unfold Core.act
      dsimp only
      rw [moved.isAsked]
      split
      · exact moved.land request result
      · exact moved
    | beat => exact moved.beat
    | signal call =>
      have outcome : c'.signal.outcome c'.now call = c.signal.outcome c.now call := by
        rw [moved.signal, moved.now]
      unfold Core.act
      dsimp only
      rw [outcome]
      exact moved.absorb _
    | attach => exact moved.attach
    | resolve transferId => exact moved.resolveItem transferId
    | log entry => exact { moved with world := moved.world.logged (.same entry) }

theorem after (moved : c.Moved r c') {actions actions' : List (Action σ L)}
    (related : List.Forall₂ (Action.Moved r) actions actions') :
    (c.after actions).Moved r (c'.after actions') := by
  induction related generalizing c c' with
  | nil => exact moved
  | cons first _ ih => exact ih (moved.act first)

end Moved
end Core

/-- What is not a report that names a file reaches the sink alike. -/
theorem forwarded_eq_of_moved {m : FileMove} {entries entries' : List LogRecord}
    (related : List.Forall₂ (LogRecord.Moved m) entries entries') (filter : LogFilter)
    (level : LogLevel) :
    (forwarded filter level entries').filter (!·.namesPath) =
      (forwarded filter level entries).filter (!·.namesPath) := by
  have commutes : ∀ entries, (forwarded filter level entries).filter (!·.namesPath) =
      forwarded filter level (entries.filter (!·.namesPath)) := by
    intro entries
    simp only [forwarded, List.filter_filter, Bool.and_comm]
  rw [commutes, commutes]
  congr 1
  induction related with
  | nil => rfl
  | @cons entry entry' _ _ first _ ih =>
    cases first with
    | same => rw [List.filter_cons, List.filter_cons, ih]
    | denial | unprepared => exact ih

namespace Core

/-- Two runs whose files are in different directories are logged alike. Only the reports that focus was
denied for a file, and that a file could not be prepared, tell the directories, and they differ in
nothing else. This is about files with names: where a path does not end in a name, the entries that name
a file show the whole path instead, and `FileMove.fileName` keeps such a path where it is. A filter sees
the entries themselves, and not what the activities around them were begun with. -/
theorem directories_unlogged_unless_reported (r : Relocation σ L) {c c' : Core σ L}
    (moved : c.Moved r c') (interval : Duration) {actions actions' : List (Action σ L)}
    (related : List.Forall₂ (Action.Moved r) actions actions') :
    let logs := ((c.launch interval).after actions).world.logs
    let logs' := ((c'.launch interval).after actions').world.logs
    List.Forall₂ (LogRecord.Moved r.toFileMove) logs logs' ∧
    ∀ filter level, (forwarded filter level logs').filter (!·.namesPath) =
      (forwarded filter level logs).filter (!·.namesPath) := by
  have logs := ((moved.launch interval).after related).world.logs
  exact ⟨logs, forwarded_eq_of_moved logs⟩

end Core

/-- The music is moved to the archive. -/
def Relocation.archiving : Relocation Obliging Empty where
  toFileMove := .ofDirectories (fun d d' => d = "/music" ∧ d' = "/archive") (by
    rintro _ _ _ _ ⟨rfl, rfl⟩ ⟨rfl, rfl⟩
    exact iff_of_true rfl rfl)
  outside _ _ := True
  answers _ call _ := by cases call <;> exact ⟨rfl, trivial⟩
  resolves _ _ := ⟨.error _, trivial⟩
  reacts _ _ _ listener := listener.elim
  keepsRunning _ listener := listener.elim

/-- The song, when it is in the archive. -/
def Item.archivedSong : Item := { ref := 0, path := ⟨"/archive/song.mp3"⟩ }

theorem Item.song_archived : Item.song.Moved Relocation.archiving.toFileMove .archivedSong :=
  ⟨⟨"/music", "/archive", "song.mp3", ⟨rfl, rfl⟩, ⟨by decide, by decide⟩, rfl, rfl⟩, rfl, rfl, rfl⟩

namespace Core

theorem obliged_archived : obliged.Moved Relocation.archiving obliged where
  world := ⟨.fresh _ _, rfl, rfl, rfl, trivial, rfl, .nil, .nil, .nil⟩
  phase := rfl
  mailbox := .nil
  handles := rfl
  flights := .nil
  signal := rfl
  publishes := rfl
  followers := rfl
  engineFollower := rfl
  now := rfl
  ticker := rfl

/-- An item is chosen that the host cannot prepare. -/
def missing (item : Item) : List (Action Obliging Empty) :=
  [.command (.choose item), .take, .ask, .answer 1 (.error (.operationFailed "no such file")), .take]

theorem missing_archived {item item' : Item}
    (items : item.Moved Relocation.archiving.toFileMove item') :
    List.Forall₂ (Action.Moved Relocation.archiving) (missing item) (missing item') :=
  .cons (.command (.playItem items)) (.cons (.same rfl) (.cons (.same rfl) (.cons (.same rfl)
    (.cons (.same rfl) .nil))))

/-- That the song cannot be prepared is logged with its directory, and all else is logged alike. -/
theorem directories_unlogged_unless_reported_archived :
    let logs := ((obliged.launch .zero).after (missing .song)).world.logs
    let logs' := ((obliged.launch .zero).after (missing .archivedSong)).world.logs
    List.Forall₂ (LogRecord.Moved Relocation.archiving.toFileMove) logs logs' ∧
    ∀ filter level, (forwarded filter level logs').filter (!·.namesPath) =
      (forwarded filter level logs).filter (!·.namesPath) :=
  directories_unlogged_unless_reported .archiving obliged_archived .zero
    (missing_archived Item.song_archived)

/-- The log may tell a directory. -/
theorem exists_directory_logged : ¬ ∀ (r : Relocation Obliging Empty) (c c' : Core Obliging Empty),
    c.Moved r c' → ∀ (interval : Duration) (actions actions' : List (Action Obliging Empty)),
    List.Forall₂ (Action.Moved r) actions actions' → ∀ filter level,
    forwarded filter level ((c'.launch interval).after actions').world.logs =
      forwarded filter level ((c.launch interval).after actions).world.logs := by
  intro always
  have same := always .archiving obliged obliged obliged_archived .zero _ _
    (missing_archived Item.song_archived) [{ level := some .warn }] .warn
  have logged : forwarded [{ level := some .warn }] .warn
      ((obliged.launch .zero).after (missing .song)).world.logs =
        [.unprepared Item.song.path "Bridge operation failed: no such file"] := by decide +kernel
  have logged' : forwarded [{ level := some .warn }] .warn
      ((obliged.launch .zero).after (missing .archivedSong)).world.logs =
        [.unprepared Item.archivedSong.path "Bridge operation failed: no such file"] := by
    decide +kernel
  rw [logged, logged'] at same
  revert same
  decide

end Core
end MediaPlayback
