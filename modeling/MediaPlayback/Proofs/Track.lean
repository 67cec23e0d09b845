import MediaPlayback.Proofs.Cursor
import MediaPlayback.Proofs.LatestStart

/-! The cursor and the engine are on the same track: whatever moves one of the two moves the other
as well, or nothing is active afterwards. The answer to a prepare brings an item of its own, and that
is the active one because only the answer to the latest start counts. -/

namespace MediaPlayback

/-- The cursor's current item is this track. -/
def Cursor.On (c : Cursor) (item : Item) : Prop :=
  ∃ current, c.currentItem? = some current ∧ current.Same item

theorem Cursor.On.of_current {c : Cursor} {item : Item} (current : c.currentItem? = some item) :
    c.On item :=
  ⟨item, current, .refl item⟩

namespace Engine

/-- The cursor is lawful, and it is on the active item. -/
structure OnTrack (e : Engine) : Prop where
  cursor : e.cursor.Lawful
  current : ∀ item, e.mode.item? = some item → e.cursor.On item

variable {e e' : Engine} {item : Item} {session : SessionId} {index : Nat}

/-- As long as the cursor stays and no other item becomes active, nothing is lost. -/
theorem OnTrack.keeps (track : e.OnTrack) (cursor : e'.cursor = e.cursor)
    (active : ∀ item, e'.mode.item? = some item → e.mode.item? = some item) : e'.OnTrack := by
  refine ⟨?_, ?_⟩ <;> rw [cursor]
  · exact track.cursor
  · exact fun item now => track.current item (active item now)

theorem OnTrack.of_idle (lawful : e.cursor.Lawful) (idle : e.mode = .idle) : e.OnTrack := by
  refine ⟨lawful, fun item active => ?_⟩
  simp [idle, Mode.item?] at active

/-- One item is active, and the cursor is on it. -/
theorem OnTrack.of_on (lawful : e.cursor.Lawful) (active : e.mode.item? = some item)
    (on : e.cursor.On item) : e.OnTrack := by
  refine ⟨lawful, fun other now => ?_⟩
  cases active.symm.trans now
  exact on

theorem OnTrack.stopped (track : e.OnTrack) : e.stopped.OnTrack := .of_idle track.cursor rfl

theorem OnTrack.cleared (e : Engine) : e.cleared.OnTrack := .of_idle (.reset e.cursor) rfl

theorem OnTrack.started (lawful : e.cursor.Lawful) (on : e.cursor.On item) (autoplay : Bool)
    (seekTo : Option Duration) : (e.started item autoplay seekTo).OnTrack := .of_on lawful rfl on

/-- The active item may be prepared, played and paused in any way. -/
theorem OnTrack.of_active (track : e.OnTrack) (active : e.mode.item? = some item)
    (cursor : e'.cursor = e.cursor) (still : e'.mode.item? = some item) : e'.OnTrack :=
  track.keeps cursor fun _ now => active.trans (still.symm.trans now)

/-- An index that was found for an item leads to the item. -/
theorem pointed_of_indexOf (lawful : e.cursor.Lawful)
    (found : e.cursor.indexOf? item = some index) :
    (e.pointed index).cursor.Lawful ∧ (e.pointed index).cursor.On item ∧
    (e.pointed index).mode = e.mode := by
  obtain ⟨cursor, moved, on⟩ := Cursor.setIndex_of_indexOf found
  have pointed : e.pointed index = { e with cursor } := by simp [Engine.pointed, moved]
  rw [pointed]
  exact ⟨lawful.setIndex moved, on, rfl⟩

/-- Every step along the playlist starts the item that the cursor came to, unless there is nothing to
come to. -/
theorem OnTrack.navigated (track : e.OnTrack) (ahead : Bool) : (e.navigated ahead).OnTrack := by
  obtain ⟨next, lawful, moved⟩ : ∃ next, (e.cursor.moveTo next).2.Lawful ∧
      (if ahead then e.cursor.forward else e.cursor.backward) = e.cursor.moveTo next := by
    cases ahead with
    | true => exact ⟨_, track.cursor.forward, rfl⟩
    | false => exact ⟨_, track.cursor.backward, rfl⟩
  unfold Engine.navigated
  rw [moved]
  dsimp only
  split
  case isTrue idle => exact .of_idle lawful idle
  case isFalse =>
    split
    case h_1 item there => exact .started lawful (.of_current (Cursor.moveTo_currentItem there)) _ _
    case h_2 => exact .cleared _

/-- A playlist of one item begins with it. -/
theorem withSingle_currentItem (e : Engine) (catalog : Catalog) (item : Item) (words : Entropy) :
    (e.withPlaylist (.single catalog item) words).cursor.currentItem? = some item := by
  have lawful := Cursor.Lawful.setPlaylist e.cursor (.single catalog item) words
  obtain ⟨current, there⟩ := lawful.exists_currentItem (show _ = some 0 from rfl)
  obtain ⟨playlist, set, mem⟩ := Cursor.mem_items_of_currentItem there
  cases set
  cases List.mem_singleton.mp mem
  exact there

theorem Begins.onTrack (begins : e.Begins item session e') (lawful : e.cursor.Lawful)
    (on : e.cursor.On item) : e'.OnTrack := by
  cases begins with
  | denied => exact .of_idle lawful rfl
  | played => exact .of_on lawful rfl on
  | failed => exact .of_idle lawful rfl

theorem Resumes.onTrack (resumes : e.Resumes item session e') (lawful : e.cursor.Lawful)
    (on : e.cursor.On item) : e'.OnTrack := by
  cases resumes with
  | denied => exact .of_on lawful rfl on
  | played => exact .of_on lawful rfl on
  | failed => exact .of_idle lawful rfl

theorem OnTrack.resumes (track : e.OnTrack) {focusPaused : Bool}
    (paused : e.mode = .paused item session)
    (resumes : Resumes { e with focusPaused } item session e') : e'.OnTrack :=
  resumes.onTrack track.cursor (track.current item (congrArg Mode.item? paused))

theorem Pauses.onTrack (pauses : e.Pauses e') (track : e.OnTrack) : e'.OnTrack := by
  cases pauses with
  | paused playing => exact track.of_active (congrArg Mode.item? playing) rfl rfl
  | failed => exact track.stopped
  | held preparing => exact track.of_active (congrArg Mode.item? preparing) rfl rfl
  | kept => exact track

theorem Plays.onTrack (plays : e.Plays e') (track : e.OnTrack) : e'.OnTrack := by
  cases plays with
  | resumed paused resumes => exact track.resumes paused resumes
  | awaited preparing => exact track.of_active (congrArg Mode.item? preparing) rfl rfl
  | started _ current => exact .started track.cursor (.of_current current) true none
  | nothing => exact track.keeps rfl fun _ => id
  | playing => exact track.keeps rfl fun _ => id

/-- The cursor may move to another entry of the active item. -/
theorem OnTrack.moves (track : e.OnTrack) {cursor : Cursor}
    (inside : e.cursor.setIndex index = .ok cursor)
    (quiet : cursor.currentItem? = none ∨ e.mode = .idle ∨
      ∃ item, cursor.currentItem? = some item ∧ e.cursor.currentItem?.any (·.Same item)) :
    { e with cursor }.OnTrack := by
  have lawful := track.cursor.setIndex inside
  refine ⟨lawful, fun active now => ?_⟩
  rcases quiet with nothing | idle | ⟨item, there, same⟩
  · have position : cursor.position = some index := by
      unfold Cursor.setIndex at inside
      split at inside <;> cases inside
      rfl
    obtain ⟨item, there⟩ := lawful.exists_currentItem position
    cases nothing.symm.trans there
  · simp [idle, Mode.item?] at now
  · obtain ⟨before, was, on⟩ := track.current active now
    have same : before.Same item := by simpa [was] using same
    exact ⟨item, there, same.symm.trans on⟩

/-- A message keeps the cursor on the active item, provided that an awaited answer is about that
item. -/
theorem Handles.onTrack {m : Message} (handles : e.Handles m e') (track : e.OnTrack)
    (answers : ∀ {id item result active request}, m = .prepared id item result →
      e.mode = .preparing active request → request.id = id → item = active) : e'.OnTrack := by
  cases handles with
  | play plays => exact plays.onTrack track
  | togglePlay _ plays => exact plays.onTrack track
  | playItemInside found =>
    obtain ⟨lawful, on, _⟩ := pointed_of_indexOf track.cursor found
    exact .started lawful on true none
  | playItemOutside catalog words =>
    exact .started (.setPlaylist e.cursor _ words)
      (.of_current (e.withSingle_currentItem catalog _ words)) true none
  | pause pauses => exact pauses.onTrack (track.keeps rfl fun _ => id)
  | togglePause _ pauses => exact pauses.onTrack (track.keeps rfl fun _ => id)
  | forward => exact track.navigated true
  | backward => exact track.navigated false
  | advanced => exact track.navigated true
  | seekAwaited preparing => exact track.of_active (congrArg Mode.item? preparing) rfl rfl
  | reselectedAwaited preparing => exact track.of_active (congrArg Mode.item? preparing) rfl rfl
  | seekStarted _ current => exact .started track.cursor (.of_current current) false _
  | setRepeatMode => exact ⟨track.cursor.setRepeatMode _, track.current⟩
  | @setShuffle shuffled words =>
    have same := track.cursor.setShuffled_currentItem shuffled words
    refine ⟨(track.cursor.setShuffled shuffled words).1, fun item now => ?_⟩
    rw [Cursor.On, same]
    exact track.current item now
  | reselected paused _ resumes => exact track.resumes paused resumes
  | gainedPaused _ paused resumes => exact track.resumes paused resumes
  | @chosen item playlist words _ member =>
    have lawful := Cursor.Lawful.setPlaylist e.cursor playlist words
    obtain ⟨index, found⟩ := lawful.exists_indexOf rfl member
    have pointedAt : (e.withPlaylist playlist words).pointedAt item =
        (e.withPlaylist playlist words).pointed index := by
      rw [Engine.pointedAt, show (e.withPlaylist playlist words).cursor.indexOf? item = _ from found]
    obtain ⟨lawful, on, _⟩ := pointed_of_indexOf (e := e.withPlaylist playlist words) lawful found
    rw [pointedAt]
    exact .started lawful on true none
  | @setPlaylist playlist words inactive =>
    refine ⟨.setPlaylist e.cursor playlist words, fun item now => ?_⟩
    cases inactive.symm.trans now
  | @setPlaylistAround playlist item index words active found =>
    obtain ⟨lawful, on, mode⟩ :=
      pointed_of_indexOf (e := e.withPlaylist playlist words) (.setPlaylist e.cursor _ words) found
    exact .of_on lawful (by rw [mode]; exact active) on
  | @setPlaylistWithout playlist _ words =>
    exact .of_idle (.setPlaylist e.cursor playlist words) rfl
  | indexOnly inside quiet => exact track.moves inside quiet
  | indexStarted inside current =>
    exact .started (track.cursor.setIndex inside) (.of_current current) _ none
  | preparedFailed => exact track.stopped
  -- The item of an awaited answer becomes the active one.
  | preparedHeld preparing current =>
    cases answers rfl preparing current
    exact track.of_active (congrArg Mode.item? preparing) rfl rfl
  | preparedBegun preparing current _ begins =>
    cases answers rfl preparing current
    exact begins.onTrack track.cursor (track.current _ (congrArg Mode.item? preparing))
  | replayed _ active => exact track.of_active active rfl rfl
  | recreated _ active => exact .started track.cursor (track.current _ active) true none
  | lostPlaying _ pauses =>
    have unpaused : { e with focusPaused := false }.OnTrack := track.keeps rfl fun _ => id
    exact (pauses.onTrack unpaused).keeps rfl fun _ => id
  | lostTransientPlaying _ pauses => exact (pauses.onTrack track).keeps rfl fun _ => id
  | reset | finished => exact .cleared e
  | seekLive | seekNothing | reselectedPlaying | notChosen | indexOutside | snapshot | progress
  | preparedLate | outputStale | outputFailed | lost | lostTransient | gained | background
  | foreground | tick | shutdown => exact track.keeps rfl fun _ => id

end Engine

namespace Core

variable {σ L : Type} {c : Core σ L}

/-- An awaited answer is about the item that is being prepared. -/
theorem Sound.answers_active (sound : c.Sound) {id : Nat} {item active : Item}
    {request : PrepareRequest} (due : (id, item) ∈ c.due)
    (preparing : c.world.engine.mode = .preparing active request) (current : request.id = id) :
    item = active := by
  have awaits : c.world.engine.mode.awaited? = some (id, active) := by
    rw [preparing, ← current]
    rfl
  obtain ⟨task, earlier, starts, _, rfl⟩ := sound.accounts.awaited id active awaits
  obtain ⟨output, latest⟩ := sound.last_start awaits due
  rw [starts] at latest
  cases latest
  rfl

variable [Surroundings σ L]

/-- A message that is taken leaves the cursor on the active item. -/
theorem Sound.onTrack_handles (sound : c.Sound) {m : Message} (next : c.next? = some m)
    (track : c.world.engine.OnTrack) {e : Engine} (handles : c.world.engine.Handles m e) :
    e.OnTrack :=
  handles.onTrack track fun answer preparing current =>
    sound.answers_active (due_of_next (answer ▸ next)) preparing current

theorem launch_onTrack (blank : c.Blank) (interval : Duration) :
    (c.launch interval).world.engine.OnTrack := by
  rw [(launch_world blank interval).1]
  exact .of_idle .empty rfl

theorem Sound.onTrack_after (sound : c.Sound) (track : c.world.engine.OnTrack)
    (actions : List (Action σ L)) : (c.after actions).world.engine.OnTrack :=
  sound.engine_after (P := Engine.OnTrack) track
    (fun sound next track handles => sound.onTrack_handles next track handles)
    (fun _ track => track.keeps rfl fun _ => id) (fun e => .cleared e) actions

/-- Unless nothing is active, the cursor has a current item, and it is the active track. -/
theorem current_active (blank : c.Blank) (interval : Duration) (actions : List (Action σ L)) :
    let e := ((c.launch interval).after actions).world.engine
    e.mode = .idle ∨ ∃ active current, e.mode.item? = some active ∧
      e.cursor.currentItem? = some current ∧ current.Same active := by
  have track := (Sound.launch blank interval).onTrack_after (launch_onTrack blank interval) actions
  intro e
  cases mode : e.mode with
  | idle => exact .inl rfl
  | preparing item | playing item | paused item =>
    obtain ⟨current, there, same⟩ := track.current item (congrArg Mode.item? mode)
    exact .inr ⟨item, current, rfl, there, same⟩

/-- The encore of `overtaken` plays when a playlist is set that has another item for its file, behind
the song, and then shuffle is switched on. -/
def reshuffled : List (Action Obliging Empty) :=
  overtaken ++ [.take, .take,
    .command ⟨.setPlaylist (.collection "Mix" [.song, { Item.encore with ref := 2 }, .song]), rfl⟩,
    .take, .command ⟨.setShuffle true, rfl⟩, .take]

/-- The encore plays on, and the other item for its file is the current one. -/
theorem current_active_reshuffled :
    let e := ((obliged.launch .zero).after reshuffled).world.engine
    e.mode = .playing .encore ⟨2⟩ ∧ e.cursor.currentItem? = some { Item.encore with ref := 2 } ∧
    e.cursor.order = [1, 2, 0] ∧
    ∃ current, e.cursor.currentItem? = some current ∧ current.Same .encore := by
  have mode : ((obliged.launch .zero).after reshuffled).world.engine.mode =
      .playing .encore ⟨2⟩ := by rfl
  refine ⟨mode, by rfl, by rfl, ?_⟩
  rcases current_active obliged_blank .zero reshuffled with idle | ⟨active, current, now, there, same⟩
  · cases mode.symm.trans idle
  · rw [mode] at now
    cases now
    exact ⟨current, there, same⟩

end Core
end MediaPlayback
