import MediaPlayback.Engine.Turn
import MediaPlayback.Proofs.Relocation.Cursor

/-! Two engines whose files are in different directories, with hosts that answer alike. What they hold,
what they await and what they write to the log correspond, but for two reports that name a file by its
whole path. -/

namespace MediaPlayback

variable {m : FileMove}

/-- The same mode, with its file in the place that it was moved to. -/
inductive Mode.Moved (m : FileMove) : Mode → Mode → Prop where
  | idle : Moved m .idle .idle
  | preparing {item item' : Item} (items : item.Moved m item') (request : PrepareRequest) :
    Moved m (.preparing item request) (.preparing item' request)
  | playing {item item' : Item} (items : item.Moved m item') (session : SessionId) :
    Moved m (.playing item session) (.playing item' session)
  | paused {item item' : Item} (items : item.Moved m item') (session : SessionId) :
    Moved m (.paused item session) (.paused item' session)

namespace Mode.Moved

variable {mode mode' : Mode}

theorem reported (moved : mode.Moved m mode') : mode'.reported = mode.reported := by
  cases moved <;> rfl

theorem wantsPlayback (moved : mode.Moved m mode') : mode'.wantsPlayback = mode.wantsPlayback := by
  cases moved <;> rfl

theorem session? (moved : mode.Moved m mode') : mode'.session? = mode.session? := by
  cases moved <;> rfl

theorem item? (moved : mode.Moved m mode') :
    Option.Rel (Item.Moved m) mode.item? mode'.item? := by
  cases moved with
  | idle => exact .none
  | preparing items | playing items | paused items => exact .some items

theorem idle_iff (moved : mode.Moved m mode') : mode' = .idle ↔ mode = .idle := by
  cases moved <;> simp

end Mode.Moved

/-- The same engine, with its files in the places that they were moved to. -/
structure Engine.Moved (m : FileMove) (e e' : Engine) : Prop where
  mode : e.mode.Moved m e'.mode
  cursor : e.cursor.Moved m e'.cursor
  live : e'.live = e.live
  hasFocus : e'.hasFocus = e.hasFocus
  holdsWakeLock : e'.holdsWakeLock = e.holdsWakeLock
  shown : e'.shown = e.shown
  backgrounded : e'.backgrounded = e.backgrounded
  focusPaused : e'.focusPaused = e.focusPaused
  lastState : e'.lastState = e.lastState
  lastItem : Option.Rel (Item.Moved m) e.lastItem e'.lastItem
  lastRequest : e'.lastRequest = e.lastRequest

/-- Whether a message names an item. -/
def Message.namesItem : Message → Bool
  | .playItem _ | .playInPlaylist .. | .setPlaylist _ | .prepared .. => true
  | _ => false

/-- The same message, with its files in the places that they were moved to. -/
inductive Message.Moved (m : FileMove) : Message → Message → Prop where
  | playItem {item item' : Item} (items : item.Moved m item') :
    Moved m (.playItem item) (.playItem item')
  | playInPlaylist {item item' : Item} {p p' : Playlist} (items : item.Moved m item')
    (playlists : p.Moved m p') : Moved m (.playInPlaylist item p) (.playInPlaylist item' p')
  | setPlaylist {p p' : Playlist} (playlists : p.Moved m p') :
    Moved m (.setPlaylist p) (.setPlaylist p')
  | prepared {item item' : Item} (items : item.Moved m item') (request : Nat)
    (result : Except HostError PreparedSession) :
    Moved m (.prepared request item result) (.prepared request item' result)
  | same {message : Message} (nameless : message.namesItem = false) : Moved m message message

theorem Message.Moved.name {message message' : Message} (moved : message.Moved m message') :
    message'.name = message.name := by
  cases moved <;> rfl

/-- The same command, with its files in the places that they were moved to. -/
def Command.Moved (m : FileMove) (command command' : Command) : Prop :=
  command.1.Moved m command'.1

/-- The same notice, with its file in the place that it was moved to. -/
inductive Notice.Moved (m : FileMove) : Notice → Notice → Prop where
  | trackChanged {item item' : Option Item} (items : Option.Rel (Item.Moved m) item item') :
    Moved m (.trackChanged item) (.trackChanged item')
  | stateChanged (state : PlaybackState) : Moved m (.stateChanged state) (.stateChanged state)
  | becameForeground : Moved m .becameForeground .becameForeground
  | becameBackground : Moved m .becameBackground .becameBackground

theorem Notice.Moved.operation {notice notice' : Notice} (moved : notice.Moved m notice') :
    notice'.operation = notice.operation := by
  cases moved <;> rfl

/-- The same task, with its file in the place that it was moved to. -/
structure PrepareTask.Moved (m : FileMove) (task task' : PrepareTask) : Prop where
  request : task'.request = task.request
  item : task.item.Moved m task'.item

/-- What came of telling a listener, with its files in the places that they were moved to. -/
structure Told.Moved {L : Type} (m : FileMove) (x x' : Told L Command) : Prop where
  id : x'.id = x.id
  listener : x'.listener = x.listener
  posts : List.Forall₂ (Command.Moved m) x.posts x'.posts
  breakdown : x'.breakdown = x.breakdown

/-- What a listener does, with its files in the places that they were moved to. -/
structure Reaction.Moved {L : Type} (m : FileMove) (x x' : Reaction L Command) : Prop where
  edits : x'.edits = x.edits
  posts : List.Forall₂ (Command.Moved m) x.posts x'.posts
  breakdown : x'.breakdown = x.breakdown

/-- Listeners that react alike are told alike. -/
theorem Registry.tell_moved {L σ : Type} {R : σ → σ → Prop}
    {react react' : Registry L → ListenerId → L → σ → Reaction L Command × σ}
    (reacts : ∀ (reg : Registry L) (id : ListenerId) (listener : L) (o o' : σ), R o o' →
      (react reg id listener o).1.Moved m (react' reg id listener o').1 ∧
        R (react reg id listener o).2 (react' reg id listener o').2)
    (entries : List (ListenerId × L)) (reg : Registry L) {o o' : σ} (outside : R o o') :
    List.Forall₂ (Told.Moved m) (tell react entries reg o).1 (tell react' entries reg o').1 ∧
      (tell react' entries reg o').2.1 = (tell react entries reg o).2.1 ∧
      R (tell react entries reg o).2.2 (tell react' entries reg o').2.2 := by
  induction entries generalizing reg o o' with
  | nil => exact ⟨.nil, rfl, outside⟩
  | cons entry rest ih =>
    obtain ⟨id, listener⟩ := entry
    obtain ⟨reactions, outside⟩ := reacts reg id listener o o' outside
    unfold tell
    dsimp only
    rw [reactions.edits]
    obtain ⟨tolds, registries, outside⟩ := ih _ outside
    exact ⟨.cons ⟨rfl, rfl, reactions.posts, reactions.breakdown⟩ tolds, registries, outside⟩

namespace LogRecord

/-- The report that the host refused audio focus for a file. -/
def denial (path : Path) : LogRecord where
  level := .warn
  target := LogSource.engine.target
  message := "Not starting playback"
  fields := [("error", (PlaybackError.focusDenied path.text).message)]

/-- The report that a file could not be prepared. -/
def unprepared (path : Path) (reason : String) : LogRecord where
  level := .error
  target := LogSource.engine.target
  message := "Failed to prepare output primitive"
  fields := [("error", (PlaybackError.prepareFailed path.text reason).message)]

/-- Whether an entry is one of the reports that name a file by its whole path. -/
def namesPath (entry : LogRecord) : Bool :=
  entry.target == LogSource.engine.target &&
    (entry.message == "Not starting playback" ||
      entry.message == "Failed to prepare output primitive")

/-- The same entry, or one of the reports that name a file, about the place that it was moved to. -/
inductive Moved (m : FileMove) : LogRecord → LogRecord → Prop where
  | same (entry : LogRecord) : Moved m entry entry
  | denial {path path' : Path} (paths : m.moves path path') : Moved m (denial path) (denial path')
  | unprepared {path path' : Path} (paths : m.moves path path') (reason : String) :
    Moved m (unprepared path reason) (unprepared path' reason)

end LogRecord

def Effect.logged? {L : Type} : Effect L → Option LogRecord
  | .logged entry => some entry
  | _ => none

/-- A transfer is resolved to the same attachment, with its file in the place that it was moved to, or
it fails alike. -/
inductive Resolves (m : FileMove) : Except HostError Attachment → Except HostError Attachment → Prop where
  | error (e : HostError) : Resolves m (.error e) (.error e)
  | ok {a a' : Attachment} (attachments : a.Moved m a') : Resolves m (.ok a) (.ok a')

/-- Files that are moved, and hosts and listeners that do not mind: whatever is outside in one run
corresponds to something in the other that answers alike and reacts alike. -/
structure Relocation (σ L : Type) [Surroundings σ L] extends FileMove where
  outside : σ → σ → Prop
  answers : ∀ {o o' : σ}, outside o o' → ∀ call : HostCall,
    (∀ transferId, call ≠ .resolve transferId) →
    (Surroundings.answer L o' call).1 = (Surroundings.answer L o call).1 ∧
      outside (Surroundings.answer L o call).2 (Surroundings.answer L o' call).2
  resolves : ∀ {o o' : σ}, outside o o' → ∀ transferId : String,
    Resolves toFileMove (Surroundings.answer L o (.resolve transferId)).1
        (Surroundings.answer L o' (.resolve transferId)).1 ∧
      outside (Surroundings.answer L o (.resolve transferId)).2
        (Surroundings.answer L o' (.resolve transferId)).2
  reacts : ∀ {o o' : σ}, outside o o' → ∀ (next : UInt64) (id : ListenerId) (listener : L)
    {notice notice' : Notice}, notice.Moved toFileMove notice' →
    (Surroundings.react o next id listener notice).1.Moved toFileMove
        (Surroundings.react o' next id listener notice').1 ∧
      outside (Surroundings.react o next id listener notice).2
        (Surroundings.react o' next id listener notice').2
  keepsRunning : ∀ {o o' : σ}, outside o o' → ∀ listener : L,
    Surroundings.keepsRunning o' listener = Surroundings.keepsRunning o listener

namespace World

variable {σ L : Type}

/-- The entries that were written to the log, in order. -/
def logs (w : World σ L) : List LogRecord := w.history.filterMap Effect.logged?

theorem logs_cons (w : World σ L) (effect : Effect L) :
    logs { w with trace := effect :: w.trace } = w.logs ++ effect.logged?.toList := by
  unfold logs history
  rw [List.reverse_cons, List.filterMap_append]
  cases effect <;> rfl

variable [Surroundings σ L]

/-- The same world, with its files in the places that they were moved to. -/
structure Moved (r : Relocation σ L) (w w' : World σ L) : Prop where
  engine : w.engine.Moved r.toFileMove w'.engine
  settings : w'.settings = w.settings
  catalog : w'.catalog = w.catalog
  listeners : w'.listeners = w.listeners
  outside : r.outside w.outside w'.outside
  entropy : w'.entropy = w.entropy
  posted : List.Forall₂ (Command.Moved r.toFileMove) w.posted w'.posted
  tasks : List.Forall₂ (PrepareTask.Moved r.toFileMove) w.tasks w'.tasks
  logs : List.Forall₂ (LogRecord.Moved r.toFileMove) w.logs w'.logs

variable {r : Relocation σ L} {w w' : World σ L}

/-- Two outcomes give the same answer and lead to worlds that correspond. -/
def Agrees (r : Relocation σ L) {α : Type} (x x' : α × World σ L) : Prop :=
  ∃ a w w', x = (a, w) ∧ x' = (a, w') ∧ Moved r w w'

namespace Moved

theorem logged (moved : w.Moved r w') {entry entry' : LogRecord}
    (entries : entry.Moved r.toFileMove entry') :
    (w.record (.logged entry)).Moved r (w'.record (.logged entry')) := by
  refine { moved with logs := ?_ }
  rw [World.record, World.record, logs_cons, logs_cons]
  exact List.rel_append moved.logs (.cons entries .nil)

/-- What is not written to the log may differ. -/
theorem unlogged (moved : w.Moved r w') (effect effect' : Effect L)
    (silent : effect.logged? = none) (silent' : effect'.logged? = none) :
    (w.record effect).Moved r (w'.record effect') := by
  refine { moved with logs := ?_ }
  rw [World.record, World.record, logs_cons, logs_cons, silent, silent']
  simpa using moved.logs

theorem logWithin (moved : w.Moved r w') (span : Option String) (source : LogSource)
    (level : LogLevel) (message : String) (fields : List (String × String)) :
    (w.logWithin span source level message fields).Moved r
      (w'.logWithin span source level message fields) :=
  moved.logged (.same _)

theorem log (moved : w.Moved r w') (source : LogSource) (level : LogLevel) (message : String)
    (fields : List (String × String)) :
    (w.log source level message fields).Moved r (w'.log source level message fields) :=
  moved.logWithin none source level message fields

theorem emit (moved : w.Moved r w') (event event' : PlaybackEvent) :
    (w.emit event).Moved r (w'.emit event') :=
  moved.unlogged _ _ rfl rfl

theorem reply (moved : w.Moved r w') (answer answer' : Reply) :
    (w.reply answer).Moved r (w'.reply answer') :=
  moved.unlogged _ _ rfl rfl

theorem setMode (moved : w.Moved r w') {mode mode' : Mode} (modes : mode.Moved r.toFileMove mode') :
    (w.setMode mode).Moved r (w'.setMode mode') :=
  { moved with engine := { moved.engine with mode := modes } }

theorem setCursor (moved : w.Moved r w') {c c' : Cursor} (cursors : c.Moved r.toFileMove c') :
    (w.setCursor c).Moved r (w'.setCursor c') :=
  { moved with engine := { moved.engine with cursor := cursors } }

theorem setFocusPaused (moved : w.Moved r w') (waits : Bool) :
    (w.setFocusPaused waits).Moved r (w'.setFocusPaused waits) :=
  { moved with engine := { moved.engine with focusPaused := rfl } }

theorem setPlaylistOf (moved : w.Moved r w') {p p' : Playlist} (playlists : p.Moved r.toFileMove p') :
    (w.setPlaylistOf p).Moved r (w'.setPlaylistOf p') := by
  obtain ⟨cursors, words⟩ := moved.engine.cursor.setPlaylist playlists w.entropy
  unfold World.setPlaylistOf
  rw [moved.entropy]
  exact { moved.setCursor cursors with entropy := words }

/-- Calls are not written to the log. -/
theorem called (moved : w.Moved r w') {call : HostCall} (result result' : call.Result) {o o' : σ}
    (outside : r.outside o o') :
    Moved r { w with outside := o, trace := .called call result :: w.trace }
      { w' with outside := o', trace := .called call result' :: w'.trace } := by
  have noted : (w.record (.called call result)).Moved r (w'.record (.called call result')) :=
    moved.unlogged _ _ rfl rfl
  exact { moved with outside := outside, logs := noted.logs }

theorem call (moved : w.Moved r w') (call : HostCall) (other : ∀ id, call ≠ .resolve id) :
    Agrees r (w.call call) (w'.call call) := by
  obtain ⟨answers, outside⟩ := r.answers moved.outside call other
  exact ⟨_, _, _, rfl, Prod.ext answers rfl, moved.called _ _ outside⟩

theorem resolve (moved : w.Moved r w') (transferId : String) :
    ∃ result result' v v', w.call (.resolve transferId) = (result, v) ∧
      w'.call (.resolve transferId) = (result', v') ∧ Resolves r.toFileMove result result' ∧
      v.Moved r v' := by
  obtain ⟨results, outside⟩ := r.resolves moved.outside transferId
  exact ⟨_, _, _, _, rfl, rfl, results, moved.called _ _ outside⟩

theorem recordTold (moved : w.Moved r w') {notice notice' : Notice}
    (notices : notice.Moved r.toFileMove notice') {told told' : Told L Command}
    (tolds : told.Moved r.toFileMove told') :
    (recordTold notice w told).Moved r (recordTold notice' w' told') := by
  have noted : (w.record (.notified told.id told.listener notice)).Moved r
      (w'.record (.notified told'.id told'.listener notice')) := moved.unlogged _ _ rfl rfl
  have posted := List.rel_append noted.posted tolds.posts
  have posts : Moved r { w.record (.notified told.id told.listener notice) with
        posted := (w.record (.notified told.id told.listener notice)).posted ++ told.posts }
      { w'.record (.notified told'.id told'.listener notice') with
        posted := (w'.record (.notified told'.id told'.listener notice')).posted ++ told'.posts } :=
    { noted with posted := posted }
  unfold World.recordTold
  dsimp only
  rw [tolds.breakdown, tolds.id, notices.operation]
  rw [tolds.id] at posts
  split
  · exact posts
  · exact posts.log ..

/-- Listeners are told alike. -/
theorem tell (moved : w.Moved r w') {notice notice' : Notice}
    (notices : notice.Moved r.toFileMove notice') : (w.tell notice).Moved r (w'.tell notice') := by
  have reacts : ∀ (reg : Registry L) (id : ListenerId) (listener : L) (o o' : σ), r.outside o o' →
      _ := fun reg id listener _ _ outside => r.reacts outside reg.next id listener notices
  obtain ⟨tolds, listeners, outside⟩ :=
    Registry.tell_moved reacts w.listeners.entries w.listeners moved.outside
  have fold : ∀ {tolds tolds' : List (Told L Command)},
      List.Forall₂ (Told.Moved r.toFileMove) tolds tolds' → ∀ {w w' : World σ L}, w.Moved r w' →
      (tolds.foldl (World.recordTold notice) w).Moved r
        (tolds'.foldl (World.recordTold notice') w') := by
    intro tolds tolds' related
    induction related with
    | nil => exact fun moved => moved
    | cons first _ ih => exact fun moved => ih (moved.recordTold notices first)
  unfold World.tell Registry.notify
  rw [moved.listeners]
  exact fold tolds { moved with listeners := listeners, outside := outside }

end Moved
end World
end MediaPlayback
