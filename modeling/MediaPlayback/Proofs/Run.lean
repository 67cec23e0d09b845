import MediaPlayback.Service

/-! Runs of a playback core. An action is one thing that its users, its host, its clock or its
engine may do next, and a run is a list of actions, in any order and with any answers. An action that
is not possible changes nothing. -/

namespace MediaPlayback

/-- What may be done to the lifecycle signal. -/
inductive SignalCall where
  | background
  | backgroundAtOnce
  | foreground
  | ignoreNext
  | shutdown
  | expire (generation : Nat)

/-- What an operation on the signal leads to at a moment. -/
def Signal.outcome (s : Signal) (now : Duration) : SignalCall → Signal.Outcome
  | .background => s.rawBackground now
  | .backgroundAtOnce => s.rawBackgroundAtOnce
  | .foreground => s.rawForeground
  | .ignoreNext => s.ignoreNextBackground
  | .shutdown => s.shutdown
  | .expire generation => s.expire generation

/-- What changes around an engine without its doing. -/
structure Circumstances (σ L : Type) where
  outside : σ
  listeners : Registry L
  followers : Registry (Follower L)
  catalog : Catalog
  entropy : Entropy
  handles : Nat
  now : Duration

/-- Something that happens next. -/
inductive Action (σ L : Type) where
  /-- A user, or a listener on its own account, sends a message. -/
  | command (command : Command)
  | output (event : OutputEvent)
  | focus (change : FocusChange)
  /-- The engine takes the next message. -/
  | take
  /-- The engine notices that nobody can reach it any more. -/
  | close
  /-- The host is asked for a session. -/
  | ask
  /-- The host answers a request for a session. -/
  | answer (request : Nat) (result : Except HostError PreparedSession)
  | beat
  | signal (call : SignalCall)
  | attach
  | resolve (transferId : String)
  | log (entry : LogRecord)
  | change (circumstances : Circumstances σ L)

namespace Core

variable {σ L : Type}

/-- Whether the host was asked for a request and did not answer yet. -/
def isAsked (c : Core σ L) (request : Nat) : Bool :=
  (c.flights.find? (·.task.request = request)).any (·.begun)

/-- The message that the engine takes next. -/
def next? (c : Core σ L) : Option Message := if c.phase = .running then c.mailbox.head? else none

/-- The circumstances as they are. -/
def circumstances (c : Core σ L) : Circumstances σ L where
  outside := c.world.outside
  listeners := c.world.listeners
  followers := c.followers
  catalog := c.world.catalog
  entropy := c.world.entropy
  handles := c.handles
  now := c.now

def setCircumstances (c : Core σ L) (x : Circumstances σ L) : Core σ L :=
  { c with
    world := { c.world with
      outside := x.outside
      listeners := x.listeners
      catalog := x.catalog
      entropy := x.entropy }
    followers := x.followers
    handles := x.handles
    now := x.now }

variable [Surroundings σ L]

/-- Whether an answer of the host can reach the engine. -/
def listens (c : Core σ L) : Bool := c.phase = .running && c.isHeld

/-- Lets something happen. -/
def act (c : Core σ L) : Action σ L → Core σ L
  | .command command => c.postWeakly command.1
  | .output event => c.postWeakly (.output event)
  | .focus change => c.postWeakly (.focus change)
  | .take => if c.phase = .running then c.takeMessage else c
  | .close => if c.phase = .running && c.mailbox.isEmpty then c.endUnlessHeld else c
  | .ask => c.beginFlight
  | .answer request result => if c.isAsked request then c.land request result else c
  | .beat => c.beat
  | .signal call => c.absorb (c.signal.outcome c.now call)
  | .attach => c.attach.2
  | .resolve transferId => (c.resolveItem transferId).2
  | .log entry => { c with world := c.world.record (.logged entry) }
  | .change circumstances => c.setCircumstances circumstances

/-- The core after a run. -/
def after (c : Core σ L) (actions : List (Action σ L)) : Core σ L := actions.foldl act c

/-- What is collected along a run, from the actions and the states in which they happen. -/
def along {α : Type} (collected : Core σ L → Action σ L → List α) :
    Core σ L → List (Action σ L) → List α
  | _, [] => []
  | c, action :: rest => collected c action ++ along collected (c.act action) rest

/-- The message that the engine takes in an action. -/
def takes (c : Core σ L) : Action σ L → List Message
  | .take => c.next?.toList
  | _ => []

/-- The session that the host returns in an action. -/
def returns (c : Core σ L) : Action σ L → List SessionId
  | .answer request (.ok prepared) => if c.isAsked request then [prepared.session] else []
  | _ => []

/-- The session that the host returns when the engine can no longer be reached. -/
def returnsLate (c : Core σ L) (action : Action σ L) : List SessionId :=
  if c.listens then [] else c.returns action

/-- The messages that the engine took, in order. -/
def taken (c : Core σ L) (actions : List (Action σ L)) : List Message := along takes c actions

/-- The sessions that the host returned, in order. -/
def returned (c : Core σ L) (actions : List (Action σ L)) : List SessionId :=
  along returns c actions

theorem filterMap_cons_toList {α β : Type} (f : α → Option β) (a : α) (rest : List α) :
    (a :: rest).filterMap f = (f a).toList ++ rest.filterMap f := by
  rw [List.filterMap_cons]
  cases f a <;> rfl

theorem reverse_toList {α : Type} (o : Option α) : o.toList.reverse = o.toList := by
  cases o <;> rfl

/-- What holds at first is never lost in a run exactly if no action of the run loses it. -/
theorem forall_prefix_iff {α : Type} {actions : List α} {P : List α → Prop} {R : List α → α → Prop}
    (start : P []) (step : ∀ earlier action later, actions = earlier ++ action :: later →
      P earlier → (P (earlier ++ [action]) ↔ ¬ R earlier action)) :
    (∀ initial, initial <+: actions → P initial) ↔
    ∀ earlier action later, actions = earlier ++ action :: later → ¬ R earlier action := by
  constructor
  · intro always earlier action later split
    have before := always earlier ⟨action :: later, split.symm⟩
    have now := always (earlier ++ [action]) ⟨later, by rw [split, List.append_assoc]; rfl⟩
    exact (step earlier action later split before).mp now
  · intro never initial
    -- A prefix is taken from its end.
    rw [← initial.reverse_reverse]
    induction initial.reverse with
    | nil => exact fun _ => start
    | cons action earlier ih =>
      rw [List.reverse_cons]
      rintro ⟨later, rfl⟩
      have split : earlier.reverse ++ [action] ++ later = earlier.reverse ++ action :: later :=
        List.append_assoc ..
      have before := ih ⟨action :: later, split.symm⟩
      exact (step _ action later split before).mpr (never _ action later split)

@[simp] theorem after_nil (c : Core σ L) : c.after [] = c := rfl

@[simp] theorem after_cons (c : Core σ L) (action : Action σ L) (rest : List (Action σ L)) :
    c.after (action :: rest) = (c.act action).after rest := rfl

theorem along_append {α : Type} (collected : Core σ L → Action σ L → List α) (c : Core σ L)
    (first second : List (Action σ L)) :
    along collected c (first ++ second) =
      along collected c first ++ along collected (c.after first) second := by
  induction first generalizing c with
  | nil => rfl
  | cons action rest ih =>
    rw [List.cons_append, along, along, ih, List.append_assoc]
    rfl

/-- Nothing is collected along a run exactly if nothing is in any of its actions. -/
theorem along_eq_nil_iff {α : Type} (collected : Core σ L → Action σ L → List α) (c : Core σ L)
    (actions : List (Action σ L)) :
    along collected c actions = [] ↔ ∀ earlier action later, actions = earlier ++ action :: later →
      collected (c.after earlier) action = [] := by
  constructor
  · rintro nothing earlier action later rfl
    rw [along_append, along] at nothing
    exact (List.append_eq_nil_iff.mp (List.append_eq_nil_iff.mp nothing).2).1
  · intro nothing
    induction actions generalizing c with
    | nil => rfl
    | cons first rest ih =>
      refine List.append_eq_nil_iff.mpr ⟨nothing [] first rest rfl, ih _ ?_⟩
      rintro earlier action later rfl
      exact nothing (first :: earlier) action later rfl

end Core

/-- A host that does all it is asked to do, where nobody listens. -/
inductive Obliging where
  | host

instance : Surroundings Obliging Empty where
  answer _ call := (match call with
    | .position _ => .ok .zero
    | .requestFocus => .ok .granted
    | .isScreenOn => .ok true
    | .appState => .ok .foreground
    | .resolve transferId => .error (.attachmentNotFound transferId)
    | .conversationFor _ => .ok none
    | .subscribeOutput | .play _ | .pause _ | .seek .. | .unload _ | .subscribeFocus
    | .abandonFocus | .acquireWakeLock .. | .releaseWakeLock _ | .showNotification ..
    | .cancelNotification _ | .subscribeAppState => .ok (), .host)
  react _ _ _ listener := listener.elim
  keepsRunning _ listener := listener.elim

/-- A core before its engine starts, with an obliging host. -/
def Core.obliged : Core Obliging Empty where
  world := { outside := .host }
  signal := { debounce := .zero }

def Item.song : Item := { ref := 0, path := ⟨"/music/song.mp3"⟩ }

def Item.encore : Item := { ref := 1, path := ⟨"/music/encore.mp3"⟩ }

def Command.choose (item : Item) : Command := ⟨.playItem item, rfl⟩

theorem Message.play_isCommand : Message.play.isCommand := rfl

theorem Message.pause_isCommand : Message.pause.isCommand := rfl

theorem Message.reset_isCommand : Message.reset.isCommand := rfl

theorem Message.seek_isCommand (position : Duration) : (Message.seek position).isCommand := rfl

theorem Message.setPlaylist_isCommand (p : Playlist) : (Message.setPlaylist p).isCommand := rfl

theorem Message.setRepeatMode_isCommand (mode : RepeatMode) :
    (Message.setRepeatMode mode).isCommand := rfl

theorem Message.setShuffle_isCommand (shuffled : Bool) : (Message.setShuffle shuffled).isCommand := rfl

theorem Message.setIndex_isCommand (index : Nat) : (Message.setIndex index).isCommand := rfl

theorem Message.playInPlaylist_isCommand (item : Item) (p : Playlist) :
    (Message.playInPlaylist item p).isCommand := rfl

def Command.play : Command := ⟨.play, Message.play_isCommand⟩

def Command.pause : Command := ⟨.pause, Message.pause_isCommand⟩

def Command.reset : Command := ⟨.reset, Message.reset_isCommand⟩

def Command.seek (position : Duration) : Command := ⟨.seek position, Message.seek_isCommand position⟩

def Command.setPlaylist (p : Playlist) : Command := ⟨.setPlaylist p, Message.setPlaylist_isCommand p⟩

def Command.setRepeatMode (mode : RepeatMode) : Command :=
  ⟨.setRepeatMode mode, Message.setRepeatMode_isCommand mode⟩

def Command.setShuffle (shuffled : Bool) : Command :=
  ⟨.setShuffle shuffled, Message.setShuffle_isCommand shuffled⟩

def Command.setIndex (index : Nat) : Command := ⟨.setIndex index, Message.setIndex_isCommand index⟩

def Command.playInPlaylist (item : Item) (p : Playlist) : Command :=
  ⟨.playInPlaylist item p, Message.playInPlaylist_isCommand item p⟩

/-- A song is chosen, and an encore before the song is prepared. Then the host answers both. -/
def Core.overtaken : List (Action Obliging Empty) :=
  [.command ⟨.playItem .song, rfl⟩, .take, .ask, .command ⟨.playItem .encore, rfl⟩, .take, .ask,
    .answer 1 (.ok ⟨⟨1⟩, none⟩), .answer 2 (.ok ⟨⟨2⟩, none⟩)]

end MediaPlayback
