import MediaPlayback.Proofs.Stage
import MediaPlayback.Proofs.Track

/-! Playback goes on while users change settings or ask how things are, while the app comes and goes,
and while the clock ticks. The active item stays active, and nothing is done that would be heard: no
session is played, paused, moved, unloaded or prepared, and audio focus stays where it is. The cursor
stays on the active track even if its playlist is replaced, as long as the new one holds it. -/

namespace MediaPlayback

/-- Whether a message leaves an active item alone: it changes settings, asks a question, tells where
the app is or what time it is. A new playlist is such a setting if it holds the item. -/
def Message.leavesAlone (item : Item) : Message → Bool
  | .setRepeatMode _ | .setShuffle _ | .snapshot | .progress | .lifecycle _ | .tick => true
  | .setPlaylist playlist => playlist.contains item
  | _ => false

/-- Whether a call touches a session or audio focus. To ask for a position is not to touch it. -/
def HostCall.touches : HostCall → Bool
  | .play _ | .pause _ | .seek .. | .unload _ | .requestFocus | .abandonFocus => true
  | _ => false

/-- Whether an effect disturbs playback or tells others that it changed. -/
def Effect.disturbs {L : Type} : Effect L → Bool
  | .called call _ => call.touches
  | .prepares _ | .started _ | .adopted _ => true
  | .emitted (.playback (.trackChanged ..)) | .emitted (.playback (.stateChanged ..)) => true
  | .notified _ _ (.trackChanged _) | .notified _ _ (.stateChanged _) => true
  | _ => false

/-- What is neither a use of a session nor seen by anyone disturbs nobody. -/
theorem Effect.disturbs_aside {L : Type} {effect : Effect L} (aside : effect.isAside)
    (news : effect.news? = none) (notice : effect.notice? = none) (asked : effect.asked? = none) :
    effect.disturbs = false := by
  cases effect with
  | called call result => cases call <;> first | rfl | contradiction
  | emitted event =>
    rcases event with (_ | _ | _ | _ | _) | _ <;> first | rfl | contradiction
  | notified _ _ told => cases told <;> first | rfl | contradiction
  | prepares | started | adopted => contradiction
  | logged | replied => rfl

namespace Engine

/-- From one engine to another, nothing changed but the cursor, which is on the item, and what is there
for an app in the background. -/
def Carries (e : Engine) (item : Item) (e' : Engine) : Prop :=
  ∃ cursor backgrounded lock shown, cursor.On item ∧
    e' = { e with cursor, backgrounded, holdsWakeLock := lock, shown }

variable {e e' : Engine} {item : Item}

theorem Carries.announced (carries : e.Carries item e') (on : e.cursor.On item)
    (announced : e.Announced) : e'.Announced := by
  obtain ⟨cursor, backgrounded, lock, shown, ⟨current, there, same⟩, rfl⟩ := carries
  obtain ⟨before, was, on⟩ := on
  refine ⟨announced.state, ?_⟩
  have known := announced.item
  rw [was] at known
  rw [show cursor.currentItem? = some current from there]
  exact Item.SameOption.trans (b := some before) (same.trans on.symm) known

theorem Handles.carries {m : Message} (handles : e.Handles m e') (track : e.OnTrack)
    (active : e.mode.item? = some item) (alone : m.leavesAlone item) : e.Carries item e' := by
  have on := track.current item active
  cases handles with
  | @setRepeatMode mode => exact ⟨e.cursor.setRepeatMode mode, _, _, _, on, rfl⟩
  | @setShuffle shuffled words =>
    refine ⟨(e.cursor.setShuffled shuffled words).1, _, _, _, ?_, rfl⟩
    rw [Cursor.On, track.cursor.setShuffled_currentItem shuffled words]
    exact on
  | setPlaylist words inactive => cases inactive.symm.trans active
  -- A new playlist begins with its first item, and then the cursor goes to where the active one is.
  | @setPlaylistAround playlist other index words now found =>
    cases active.symm.trans now
    obtain ⟨cursor, pointed⟩ := (e.withPlaylist playlist words).exists_pointed index
    obtain ⟨_, on, _⟩ :=
      pointed_of_indexOf (e := e.withPlaylist playlist words) (.setPlaylist e.cursor _ words) found
    rw [pointed] at on ⊢
    exact ⟨cursor, _, _, _, on, rfl⟩
  -- It is somewhere, in whatever order the playlist is.
  | @setPlaylistWithout playlist other words now absent =>
    cases active.symm.trans now
    obtain ⟨index, found⟩ :=
      (Cursor.Lawful.setPlaylist e.cursor playlist words).exists_indexOf rfl alone
    cases absent.symm.trans found
  | snapshot | progress | background | foreground | tick => exact ⟨e.cursor, _, _, _, on, rfl⟩
  | _ => contradiction

end Engine

namespace World

variable {σ L : Type}

/-- From one world to another, nothing disturbed playback. -/
structure Spares (w w' : World σ L) : Prop where
  trace : ∃ effects, w'.trace = effects ++ w.trace ∧ ∀ effect ∈ effects, effect.disturbs = false
  tasks : w'.tasks = w.tasks

theorem Spares.of {w w' : World σ L} (effects : List (Effect L))
    (trace : w'.trace = effects ++ w.trace) (calm : effects.all (!·.disturbs))
    (tasks : w'.tasks = w.tasks) : w.Spares w' :=
  ⟨⟨effects, trace, fun effect mem => by simpa using List.all_eq_true.mp calm effect mem⟩, tasks⟩

theorem Spares.refl (w : World σ L) : w.Spares w := .of [] rfl rfl rfl

theorem Spares.trans {w w' w'' : World σ L} (first : w.Spares w') (second : w'.Spares w'') :
    w.Spares w'' := by
  obtain ⟨⟨early, trace, calm⟩, tasks⟩ := first
  obtain ⟨⟨late, trace', calm'⟩, tasks'⟩ := second
  exact ⟨⟨late ++ early, by rw [trace', trace, List.append_assoc],
    List.forall_mem_append.mpr ⟨calm', calm⟩⟩, tasks'.trans tasks⟩

theorem Mutters.spares {w w' : World σ L} (mutters : w.Mutters w')
    (news : w'.front.news = w.front.news) (notices : w'.front.notices = w.front.notices)
    (asked : w'.front.asked = w.front.asked) : w.Spares w' := by
  obtain ⟨effects, trace, asides⟩ := mutters.trace
  have unseen : ∀ {α : Type} (f : Effect L → Option α),
      w'.trace.filterMap f = w.trace.filterMap f → ∀ effect ∈ effects, f effect = none := by
    intro α f same
    rw [trace, List.filterMap_append, List.append_left_eq_self] at same
    exact List.filterMap_eq_nil_iff.mp same
  exact ⟨⟨effects, trace, fun effect mem => Effect.disturbs_aside (asides effect mem)
    (unseen _ news effect mem) (unseen _ notices effect mem) (unseen _ asked effect mem)⟩,
    mutters.tasks⟩

variable [Surroundings σ L]

theorem onLifecycle_mutters (w : World σ L) (event : LifecycleEvent) :
    w.Mutters (w.onLifecycle event) := by
  unfold onLifecycle
  cases event with
  | becameBackground =>
    have gone : w.Mutters w.away := .of [] rfl rfl rfl
    dsimp only
    split
    case isTrue => exact gone
    case isFalse =>
      refine gone.trans (w.away.screenOn_mutters.trans (.trans ?_ (refreshNotification_mutters _)))
      split
      · exact acquireWakeLock_mutters _
      · exact .refl _
  | becameForeground =>
    have back : w.Mutters { w with engine := { w.engine with backgrounded := false } } :=
      .of [] rfl rfl rfl
    exact back.trans ((releaseWakeLock_mutters _).trans (hideNotification_mutters _))

theorem onLifecycle_spares (w : World σ L) (event : LifecycleEvent) :
    w.Spares (w.onLifecycle event) := by
  have mutters := w.onLifecycle_mutters event
  cases event with
  | becameBackground =>
    obtain ⟨_, _, _, _, front⟩ := w.onBackground_front
    apply mutters.spares <;> rw [front]
  | becameForeground => apply mutters.spares <;> rw [w.onForeground_front.2]

theorem sessionPosition_spares (w : World σ L) (session : SessionId) :
    w.Spares (w.sessionPosition session).2 := by
  obtain ⟨result, outside, h⟩ := w.exists_call (.position session)
  unfold sessionPosition
  rw [h]
  cases result with
  | ok => exact .of [_] rfl rfl rfl
  | error => exact .of [_, _] rfl rfl rfl

theorem progress_spares (w : World σ L) : w.Spares w.progress.2 := by
  unfold progress
  split
  · exact w.sessionPosition_spares _
  · exact .refl w

theorem onTick_spares (w : World σ L) : w.Spares w.onTick := by
  unfold onTick
  split
  case h_1 item session playing =>
    have asked := w.sessionPosition_spares session
    rcases h : w.sessionPosition session with ⟨_ | position, w'⟩ <;> rw [h] at asked
    · exact asked
    · exact asked.trans (.of [_] rfl rfl rfl)
  case h_2 => exact .refl w

theorem setPlaylist_spares (w : World σ L) {playlist : Playlist} {item : Item}
    (active : w.engine.mode.item? = some item) (holds : playlist.contains item) :
    w.Spares (w.setPlaylist playlist) := by
  obtain ⟨index, found⟩ :=
    (Cursor.Lawful.setPlaylist w.engine.cursor playlist w.entropy).exists_indexOf rfl holds
  have found : (w.setPlaylistOf playlist).engine.cursor.indexOf? item = some index := found
  have moved : w.setPlaylist playlist = (w.setPlaylistOf playlist).moveCursor index := by
    simp only [setPlaylist, active, found]
  have replaced : w.Spares (w.setPlaylistOf playlist) := .of [] rfl rfl rfl
  rw [moved]
  refine replaced.trans ?_
  unfold moveCursor
  split
  · exact .of [] rfl rfl rfl
  · exact .of [_] rfl rfl rfl

theorem handle_spares (w : World σ L) {m : Message} {item : Item}
    (active : w.engine.mode.item? = some item) (alone : m.leavesAlone item) :
    w.Spares (w.handle m) := by
  cases m with
  | setRepeatMode | setShuffle | snapshot => exact .of [_] rfl rfl rfl
  | setPlaylist playlist => exact w.setPlaylist_spares active alone
  | progress => exact w.progress_spares.trans (.of [_] rfl rfl rfl)
  | lifecycle event => exact w.onLifecycle_spares event
  | tick => exact w.onTick_spares
  | _ => contradiction

/-- There is nothing to publish about what leaves the active item alone. -/
theorem turn_spares (w : World σ L) {m : Message} {item : Item} (track : w.engine.OnTrack)
    (announced : w.engine.Announced) (active : w.engine.mode.item? = some item)
    (alone : m.leavesAlone item) :
    w.engine.Carries item (w.turn m).engine ∧ w.Spares (w.turn m) := by
  let noted := w.log .engine .trace "Engine command" [("command", m.name)]
  have carries : w.engine.Carries item (noted.handle m).engine :=
    (noted.handle_engine m).carries track active alone
  have quiet : w.turn m = noted.handle m :=
    publish_of_announced _ (carries.announced (track.current item active) announced)
  have logged : w.Spares noted := .of [_] rfl rfl rfl
  rw [quiet]
  exact ⟨carries, logged.trans (noted.handle_spares active alone)⟩

end World

namespace Core

variable {σ L : Type} [Surroundings σ L] {c : Core σ L}

/-- Settings and questions never disturb playback. While an item is active, the engine goes on as it
was, whatever the host fails at, when it takes a message that changes the repeat mode, shuffle or the
playlist, provided that the new one holds the item, that asks for a snapshot or the progress, that
tells where the app is, or a tick of the clock: only the cursor may move, and only to an entry of the
same track, and what is there for an app in the background may come and go. No session is touched or
prepared, no focus asked for or given back, and nobody is told of another track or state. -/
theorem settings_leave_playback_alone (blank : c.Blank) (interval : Duration)
    (actions : List (Action σ L)) {item : Item} {m : Message}
    (active : ((c.launch interval).after actions).world.engine.mode.item? = some item)
    (next : ((c.launch interval).after actions).next? = some m) (alone : m.leavesAlone item) :
    let s := (c.launch interval).after actions
    let s' := s.act .take
    (∃ cursor backgrounded lock shown, cursor.On item ∧ s'.world.engine = { s.world.engine with
      cursor, backgrounded, holdsWakeLock := lock, shown }) ∧
    s'.flights = s.flights ∧ ∀ effect ∈ s.story [.take], effect.disturbs = false := by
  intro s s'
  have launched := Sound.launch blank interval
  have sound : s.Sound := launched.after actions
  have track : s.world.engine.OnTrack :=
    launched.onTrack_after (launch_onTrack blank interval) actions
  have lasting : m ≠ .shutdown := by
    rintro rfl
    contradiction
  obtain ⟨carries, ⟨effects, grown, calm⟩, tasks⟩ :=
    s.world.turn_spares track sound.announced active alone
  obtain ⟨mailbox, turned⟩ := act_take_turned next lasting
  have engine : s'.world.engine = (s.world.turn m).engine := by
    rw [show s' = s.turned m mailbox from turned]
    rfl
  refine ⟨engine ▸ carries, ?_, ?_⟩
  · have tasks : (s.world.turn m).tasks = s.world.tasks ++ [] := tasks.trans (List.append_nil _).symm
    rw [show s' = s.turned m mailbox from turned, sound.turned_flights m mailbox tasks]
    exact List.append_nil _
  · have story : s.story [.take] = effects.reverse := by
      refine sound.story_act ?_
      rw [turned]
      exact grown
    rw [story]
    exact fun effect mem => calm effect (List.mem_reverse.mp mem)

/-- The encore of `overtaken` plays when a playlist is to be set that has it twice, as other items for
its file, behind the song. -/
def supplanted : List (Action Obliging Empty) :=
  overtaken ++ [.take, .take, .command (.setPlaylist (.collection "Mix"
    [.song, { Item.encore with ref := 2 }, { Item.encore with ref := 3 }]))]

/-- The encore plays on as the first item for its file. -/
theorem settings_leave_playback_alone_supplanted :
    let s := (obliged.launch .zero).after supplanted
    let s' := s.act .take
    s.world.engine.mode = .playing .encore ⟨2⟩ ∧ s.world.engine.cursor.position = some 0 ∧
    s'.world.engine.mode = .playing .encore ⟨2⟩ ∧ s'.world.engine.cursor.position = some 1 ∧
    (∃ cursor backgrounded lock shown, cursor.On .encore ∧ s'.world.engine = { s.world.engine with
      cursor, backgrounded, holdsWakeLock := lock, shown }) ∧
    s'.flights = s.flights ∧ ∀ effect ∈ s.story [.take], effect.disturbs = false := by
  have alone : Message.leavesAlone .encore (.setPlaylist (.collection "Mix"
      [.song, { Item.encore with ref := 2 }, { Item.encore with ref := 3 }])) := by decide
  exact ⟨by rfl, by rfl, by rfl, by rfl,
    settings_leave_playback_alone obliged_blank .zero supplanted (by rfl) (by rfl) alone⟩

end Core
end MediaPlayback
