import MediaPlayback.Proofs.Background
import MediaPlayback.Proofs.Track

/-! What the notification says. It is shown anew only when the state or the current track changes, but
it also names the playlist and is about one item among others of the same file. So it goes out of date
exactly when a message replaces the playlist or the item and neither the state nor the track
changes. -/

namespace MediaPlayback

/-- Whether a message may replace the playlist or the active item by another one of the same file. -/
def Message.mayRelabel : Message → Bool
  | .playItem _ | .forward | .backward | .setPlaylist _ | .output (.completed _) => true
  | _ => false

namespace Engine

variable {e e' : Engine} {item : Item} {session : SessionId}

theorem exists_item (active : e.mode ≠ .idle) : ∃ item, e.mode.item? = some item := by
  cases mode : e.mode with
  | idle => exact absurd mode active
  | preparing item | playing item | paused item => exact ⟨item, rfl⟩

theorem Resumes.label (resumes : e.Resumes item session e') (active : e.mode.item? = some item)
    (lives : e'.mode ≠ .idle) : e'.label = e.label := by
  cases resumes with
  | denied | played => exact congrArg (·, _) active.symm
  | failed => exact absurd rfl lives

theorem Pauses.label (pauses : e.Pauses e') (lives : e'.mode ≠ .idle) : e'.label = e.label := by
  cases pauses with
  | paused playing => exact congrArg (·, _) (congrArg Mode.item? playing).symm
  | failed => exact absurd rfl lives
  | held preparing => exact congrArg (·, _) (congrArg Mode.item? preparing).symm
  | kept => rfl

theorem Plays.label (plays : e.Plays e') (active : e.mode ≠ .idle) (lives : e'.mode ≠ .idle) :
    e'.label = e.label := by
  cases plays with
  | resumed paused resumes => exact resumes.label (congrArg Mode.item? paused) lives
  | awaited preparing => exact congrArg (·, _) (congrArg Mode.item? preparing).symm
  | started idle | nothing idle => exact absurd idle active
  | playing => rfl

/-- Other messages keep the label of an engine that is active before and after them and stays on the
same track. -/
theorem Handles.label {m : Message} (handles : e.Handles m e') (keeps : m.mayRelabel = false)
    (active : e.mode ≠ .idle) (lives : e'.mode ≠ .idle) (before : e.OnTrack) (after : e'.OnTrack)
    (same : Item.SameOption e'.cursor.currentItem? e.cursor.currentItem?)
    (answers : ∀ {id item result active request}, m = .prepared id item result →
      e.mode = .preparing active request → request.id = id → item = active) :
    e'.label = e.label := by
  cases handles with
  | play plays | togglePlay _ plays => exact plays.label active lives
  | pause pauses | togglePause _ pauses => exact pauses.label lives
  | seekAwaited preparing => exact congrArg (·, _) (congrArg Mode.item? preparing).symm
  | seekStarted idle | seekNothing idle => exact absurd idle active
  | @setShuffle shuffled words =>
    have playlist : (e.cursor.setShuffled shuffled words).1.playlist = e.cursor.playlist := by
      unfold Cursor.setShuffled
      split
      · rfl
      · cases shuffled <;> rfl
    exact congrArg (e.mode.item?, Option.map Playlist.name ·) playlist
  | reselected paused _ resumes => exact resumes.label (congrArg Mode.item? paused) lives
  | reselectedAwaited preparing => exact congrArg (·, _) (congrArg Mode.item? preparing).symm
  -- A track that is chosen anew is another one.
  | @chosen item playlist words other member =>
    obtain ⟨playing, now⟩ := exists_item active
    obtain ⟨current, there, on⟩ := before.current playing now
    obtain ⟨current', there', on'⟩ := after.current item rfl
    rw [there, there'] at same
    have again : playing.Same item := on.symm.trans (Item.Same.trans (Item.Same.symm same) on')
    rw [now] at other
    exact absurd again (by simpa using other)
  | @indexOnly index cursor inside =>
    unfold Cursor.setIndex at inside
    split at inside <;> cases inside
    rfl
  | @indexStarted index cursor item inside current other =>
    have same : Item.SameOption cursor.currentItem? e.cursor.currentItem? := same
    rw [current] at same
    cases there : e.cursor.currentItem? with
    | none => simp [there, Item.SameOption] at same
    | some before =>
      rw [there] at same other
      exact absurd (Item.Same.symm same) (by simpa using other)
  | setPlaylist | setPlaylistAround | setPlaylistWithout | playItemInside | playItemOutside
  | forward | backward | replayed | recreated | advanced | finished => contradiction
  | preparedHeld preparing current =>
    cases answers rfl preparing current
    exact congrArg (·, _) (congrArg Mode.item? preparing).symm
  | preparedBegun preparing current _ begins =>
    cases answers rfl preparing current
    cases begins with
    | played => exact congrArg (·, _) (congrArg Mode.item? preparing).symm
    | denied | failed => exact absurd rfl lives
  | lostPlaying _ pauses => exact pauses.label lives
  | lostTransientPlaying _ pauses => exact pauses.label lives
  | gainedPaused _ paused resumes => exact resumes.label (congrArg Mode.item? paused) lives
  | reset | preparedFailed => exact absurd rfl lives
  | seekLive | setRepeatMode | reselectedPlaying | notChosen | indexOutside | snapshot | progress
  | preparedLate | outputStale | outputFailed | lost | lostTransient | gained | background
  | foreground | tick | shutdown => rfl

theorem Withdraws.active (withdraws : e.Withdraws) (announced : e.Announced) (shown : e.shown) :
    e.mode ≠ .idle := by
  intro idle
  refine (withdraws (.inl shown)).2 ?_
  rw [announced.state, idle]
  rfl

end Engine

namespace World

variable {σ L : Type}

/-- What becomes of a notification that is not out of date: it is shown with its caption, it is not
there, or its caption stays as it is. -/
inductive Captions (w w' : World σ L) : Prop where
  | anew {content : NotificationContent} {ok : Bool}
    (shows : w'.front.shows = (content, ok) :: w.front.shows)
    (caption : w'.caption? = some content) : Captions w w'
  | gone (shows : w'.front.shows = w.front.shows) (hidden : w'.engine.shown = false) : Captions w w'
  | kept (shows : w'.front.shows = w.front.shows) (shown : w'.engine.shown → w.engine.shown)
    (caption : w'.caption? = w.caption?) : Captions w w'

variable [Surroundings σ L]

/-- The notification is not out of date once something was published. -/
theorem Publishes.captions {w w' w₀ : World σ L} {ok : Bool} (publishes : w.Publishes ok w')
    (shows : w.front.shows = w₀.front.shows) : w₀.Captions w' := by
  obtain ⟨engine, _, _, shown, tags, _⟩ := publishes
  have caption : w'.caption? = w.caption? :=
    caption?_congr (by rw [engine]; rfl) (by rw [engine]; rfl) (by rw [engine]; rfl) fun item _ =>
      congrArg (List.lookup item.ref) tags
  rw [shows] at shown
  cases told : w.caption? with
  | none =>
    rw [told] at shown engine
    exact .gone shown (by rw [engine]; rfl)
  | some content =>
    rw [told] at shown
    exact .anew shown (caption.trans told)

/-- Nothing is published after a message that changed neither the state nor the track. -/
theorem turn_of_unchanged (w : World σ L) {m : Message} (announced : w.engine.Announced)
    (stays : ∀ event, m ≠ .lifecycle event)
    (state : (w.turn m).engine.mode.reported = w.engine.mode.reported)
    (item : Item.SameOption (w.turn m).engine.cursor.currentItem? w.engine.cursor.currentItem?) :
    w.turn m = (w.log .engine .trace "Engine command" [("command", m.name)]).handle m := by
  let noted := w.log .engine .trace "Engine command" [("command", m.name)]
  have retains := (noted.handle_engine m).retains stays
  obtain ⟨shown, published⟩ := (noted.handle m).publish_engine
  have turned : (w.turn m).engine = _ := published
  rw [turned] at state item
  refine publish_of_announced _ ⟨?_, ?_⟩
  · exact retains.lastState.trans (announced.state.trans state.symm)
  · rw [retains.lastItem]
    exact Item.SameOption.trans item announced.item

theorem reset_hides (w : World σ L) :
    w.reset.publish.front.shows = w.front.shows ∧ w.reset.publish.engine.shown = false := by
  by_cases announced : w.reset.engine.Announced
  · rw [publish_of_announced _ announced, reset_front, reset_engine]
    exact ⟨rfl, rfl⟩
  · obtain ⟨ok, publishes⟩ := publish_of_unannounced _ announced
    have nothing : w.reset.caption? = none := by
      refine if_neg fun due => due.2 ?_
      rw [reset_engine]
      rfl
    rw [publishes.shows, publishes.engine, nothing, reset_front]
    exact ⟨rfl, rfl⟩

theorem lifecycle_captions (w : World σ L) (event : LifecycleEvent)
    (announced : w.engine.Announced) (withdraws : w.engine.Withdraws) :
    w.Captions (w.turn (.lifecycle event)) := by
  let noted := w.log .engine .trace "Engine command"
    [("command", (Message.lifecycle event).name)]
  have turned : w.turn (.lifecycle event) = (noted.onLifecycle event).publish := rfl
  cases event with
  | becameForeground =>
    obtain ⟨engine, front⟩ := noted.onForeground_front
    have known : (noted.onLifecycle .becameForeground).engine.Announced := by
      rw [engine]
      exact ⟨announced.state, announced.item⟩
    rw [turned, publish_of_announced _ known]
    exact .gone (congrArg (fun f : Front L => f.shows) front) (by rw [engine])
  | becameBackground =>
    obtain ⟨lock, ok, engine, _, front⟩ := noted.onBackground_front
    have known : (noted.onLifecycle .becameBackground).engine.Announced := by
      rw [engine]
      exact ⟨announced.state, announced.item⟩
    have caption : (noted.onLifecycle .becameBackground).caption? = noted.away.caption? :=
      caption?_congr (by rw [engine]; rfl) (by rw [engine]) (by rw [engine]) fun item _ =>
        congrArg (fun f : Front L => List.lookup item.ref f.tags) front
    rw [turned, publish_of_announced _ known]
    cases told : noted.away.caption? with
    | some content => exact .anew (by rw [front, told]; rfl) (caption.trans told)
    | none =>
      refine .gone (by rw [front, told]; rfl) ?_
      rw [engine, told]
      -- There is nothing to say because playback is stopped, and so nothing was shown before.
      refine Bool.eq_false_iff.mpr fun shown => (withdraws (.inl shown)).2 ?_
      by_cases stopped : w.engine.mode.reported = .stopped
      · exact announced.state.trans stopped
      · have due := noted.away.caption?_isSome.mpr ⟨rfl, stopped⟩
        rw [told] at due
        contradiction

/-- The notification may be out of date after a message only if the message may relabel what is shown
and changes neither the state nor the track. -/
theorem turn_captions (w : World σ L) {m : Message} (announced : w.engine.Announced)
    (withdraws : w.engine.Withdraws) (before : w.engine.OnTrack)
    (after : ∀ {e}, w.engine.Handles m e → e.OnTrack)
    (answers : ∀ {id item result active request}, m = .prepared id item result →
      w.engine.mode = .preparing active request → request.id = id → item = active) :
    w.Captions (w.turn m) ∨ m.mayRelabel ∧ w.engine.shown ∧
      (w.turn m).front.shows = w.front.shows ∧
      (w.turn m).engine.mode.reported = w.engine.mode.reported ∧
      Item.SameOption (w.turn m).engine.cursor.currentItem? w.engine.cursor.currentItem? := by
  by_cases declared : ∃ event, m = .lifecycle event
  · obtain ⟨event, rfl⟩ := declared
    exact .inl (w.lifecycle_captions event announced withdraws)
  have stays : ∀ event, m ≠ .lifecycle event := fun event same => declared ⟨event, same⟩
  let noted := w.log .engine .trace "Engine command" [("command", m.name)]
  have turned : w.turn m = (noted.handle m).publish := rfl
  have handles : w.engine.Handles m (noted.handle m).engine := noted.handle_engine m
  have retains := handles.retains stays
  have tags : (noted.handle m).front.tags = w.front.tags := by
    rw [noted.handle_front_news stays]
    rfl
  have shows : (noted.handle m).front.shows = w.front.shows := noted.handle_shows stays
  by_cases known : (noted.handle m).engine.Announced
  case neg =>
    obtain ⟨ok, publishes⟩ := publish_of_unannounced _ known
    exact .inl (publishes.captions shows)
  case pos =>
    rw [turned, publish_of_announced _ known]
    have state : (noted.handle m).engine.mode.reported = w.engine.mode.reported :=
      known.state.symm.trans (retains.lastState.trans announced.state)
    have item : Item.SameOption (noted.handle m).engine.cursor.currentItem?
        w.engine.cursor.currentItem? := by
      refine Item.SameOption.trans known.item (.symm ?_)
      rw [retains.lastItem]
      exact announced.item
    cases shown : (noted.handle m).engine.shown with
    | false => exact .inl (.gone shows shown)
    | true =>
      have was : w.engine.shown := by
        rcases retains.held with ⟨same, _⟩ | ⟨_, hidden, _⟩
        · exact same.symm.trans shown
        · cases hidden.symm.trans shown
      cases may : m.mayRelabel with
      | true => exact .inr ⟨rfl, was, shows, state, item⟩
      | false =>
        have active := withdraws.active announced was
        have lives := (withdraws.retains retains).active known shown
        have label := handles.label may active lives before (after handles) item answers
        have caption := caption?_congr label state retains.backgrounded fun item _ =>
          congrArg (List.lookup item.ref) tags
        exact .inl (.kept shows (fun _ => was) caption)

end World

namespace Core

variable {σ L : Type} [Surroundings σ L]

/-- What the notification was last asked to show in a run. -/
def lastShown (c : Core σ L) (actions : List (Action σ L)) : Option NotificationContent :=
  ((c.story actions).filterMap Effect.show?).getLast?.map (·.1)

/-- If the notification is shown after a run, it was last asked to show what is going on. -/
def UpToDate (c : Core σ L) (actions : List (Action σ L)) : Prop :=
  let w := (c.after actions).world
  w.engine.shown → ∃ item, w.engine.mode.item? = some item ∧
    c.lastShown actions = some (w.catalog.notificationContent item
      (w.engine.cursor.playlist.map (·.name)) (w.engine.mode.reported == .playing))

/-- In an action the engine takes a message that replaces the playlist or the active item, so that the
notification should say something else, but neither the state nor the track changes. -/
def Relabels (c : Core σ L) (action : Action σ L) : Prop :=
  action = .take ∧ (∃ m, c.next? = some m ∧ m.mayRelabel) ∧ c.world.engine.shown ∧
  (c.act action).world.engine.mode.reported = c.world.engine.mode.reported ∧
  Item.SameOption (c.act action).world.engine.cursor.currentItem?
    c.world.engine.cursor.currentItem? ∧
  (c.act action).world.caption? ≠ c.world.caption?

/-- The tags as they are after an action that records some. -/
def retags (c : Core σ L) (action : Action σ L) : List (List (Nat × Tags)) :=
  if (c.act action).world.catalog.tags = c.world.catalog.tags then []
  else [(c.act action).world.catalog.tags]

theorem untagged_of_along {c : Core σ L} {earlier later : List (Action σ L)} {action : Action σ L}
    (untagged : along retags c (earlier ++ action :: later) = []) :
    ((c.after earlier).act action).world.catalog.tags = (c.after earlier).world.catalog.tags := by
  rw [along_append, along] at untagged
  have now := (List.append_eq_nil_iff.mp (List.append_eq_nil_iff.mp untagged).2).1
  unfold retags at now
  split at now
  · assumption
  · contradiction

variable {c : Core σ L} {earlier actions : List (Action σ L)} {action : Action σ L}

theorem upToDate_iff (announced : (c.after actions).world.engine.Announced)
    (withdraws : (c.after actions).world.engine.Withdraws) :
    c.UpToDate actions ↔ ((c.after actions).world.engine.shown →
      c.lastShown actions = (c.after actions).world.caption?) := by
  refine forall_congr' fun shown => ?_
  obtain ⟨away, active⟩ := withdraws (.inl shown)
  obtain ⟨item, playing⟩ := Engine.exists_item (withdraws.active announced shown)
  rw [announced.state] at active
  have caption : (c.after actions).world.caption? = some _ :=
    (if_pos ⟨away, active⟩).trans (congrArg _ playing)
  rw [caption, playing]
  exact ⟨fun ⟨_, rfl, last⟩ => last, fun last => ⟨item, rfl, last⟩⟩

theorem Sound.lastShown_append (sound : c.Sound) (more : List (NotificationContent × Bool))
    (shows : ((c.after earlier).act action).world.front.shows =
      more ++ (c.after earlier).world.front.shows) :
    c.lastShown (earlier ++ [action]) = (more.head?.map (·.1)).or (c.lastShown earlier) := by
  have added := (sound.after earlier).filterMap_story action Effect.show? shows
  unfold lastShown
  rw [sound.story_append, List.filterMap_append, List.getLast?_append, added,
    List.getLast?_reverse]
  cases more.head? <;> rfl

/-- The notification may be out of date after an action only if the action relabels what is shown. -/
theorem Sound.act_captions (sound : c.Sound) (withdraws : c.world.engine.Withdraws)
    (track : c.world.engine.OnTrack) (action : Action σ L)
    (untagged : ∀ item, c.world.engine.mode.item? = some item →
      (c.act action).world.catalog.tags? item = c.world.catalog.tags? item)
    (never : ¬ c.Relabels action) : c.world.Captions (c.act action).world := by
  have reveals := act_reveals sound.settled action
  generalize acted : c.act action = c' at reveals untagged ⊢
  cases reveals with
  | nothing _ engine hides =>
    have caption : c'.world.caption? = c.world.caption? :=
      World.caption?_congr (by rw [engine]) (by rw [engine]) (by rw [engine]) untagged
    have shows : c'.world.coverage.shows = c.world.coverage.shows := by rw [hides]
    exact .kept shows (by rw [engine]; exact id) caption
  | @turn m _ next other world =>
    rcases c.world.turn_captions sound.announced withdraws track (sound.onTrack_handles next track)
      (fun answer preparing current => sound.answers_active (due_of_next (answer ▸ next))
        preparing current) with captions | ⟨may, shown, shows, state, item⟩
    · rw [world]
      cases captions with
      | anew shows caption => exact .anew shows caption
      | gone shows hidden => exact .gone shows hidden
      | kept shows still caption => exact .kept shows still caption
    · by_cases caption : c'.world.caption? = c.world.caption?
      · exact .kept (by rw [world]; exact shows) (fun _ => shown) caption
      · refine absurd ⟨rfl, ⟨m, next, may⟩, shown, ?_, ?_, ?_⟩ never <;> rw [acted]
        · rw [world]
          exact state
        · rw [world]
          exact item
        · exact caption
  | @ending _ w _ _ _ before front engine reveals =>
    obtain ⟨shows, hidden⟩ := w.reset_hides
    refine .gone ?_ (by rw [engine]; exact hidden)
    rw [reveals, shows, front]

theorem Sound.relabels_hides (sound : c.Sound) (withdraws : c.world.engine.Withdraws)
    (relabels : c.Relabels action) :
    (c.act action).world.front.shows = c.world.front.shows ∧
    (c.act action).world.engine.shown := by
  obtain ⟨rfl, ⟨m, next, may⟩, shown, state, item, _⟩ := relabels
  have stays : ∀ event, m ≠ .lifecycle event := by
    rintro event rfl
    contradiction
  have other : m ≠ .shutdown := by
    rintro rfl
    contradiction
  obtain ⟨_, _, world⟩ := act_take next other
  let noted := c.world.log .engine .trace "Engine command" [("command", m.name)]
  have retains := (noted.handle_engine m).retains stays
  rw [world] at state item ⊢
  have turned := c.world.turn_of_unchanged sound.announced stays state item
  constructor
  · show (c.world.turn m).front.shows = _
    rw [turned]
    exact noted.handle_shows stays
  · show (c.world.turn m).engine.shown
    change (c.world.turn m).engine.mode.reported = c.world.engine.mode.reported at state
    rw [turned] at state ⊢
    rcases retains.held with ⟨same, _⟩ | ⟨idle, _, _⟩
    · exact same.trans shown
    · -- What is shown is about something active.
      rw [idle] at state
      exact absurd (sound.announced.state.trans state.symm) (withdraws (.inl shown)).2

/-- An action leaves the notification out of date exactly if it relabels what is shown. -/
theorem Sound.upToDate_act (sound : c.Sound) (withdraws : (c.after earlier).world.engine.Withdraws)
    (track : (c.after earlier).world.engine.OnTrack)
    (untagged : ∀ item, (c.after earlier).world.engine.mode.item? = some item →
      ((c.after earlier).act action).world.catalog.tags? item =
        (c.after earlier).world.catalog.tags? item) (upToDate : c.UpToDate earlier) :
    c.UpToDate (earlier ++ [action]) ↔ ¬ (c.after earlier).Relabels action := by
  have now := sound.after earlier
  have acted : c.after (earlier ++ [action]) = (c.after earlier).act action :=
    c.after_append earlier [action]
  rw [upToDate_iff now.announced withdraws] at upToDate
  rw [upToDate_iff (acted ▸ (now.act action).announced)
    (acted ▸ now.act_withdraws withdraws action), acted]
  constructor
  · intro after relabels
    obtain ⟨shows, shown⟩ := now.relabels_hides withdraws relabels
    obtain ⟨_, _, was, _, _, changes⟩ := relabels
    have last := sound.lastShown_append [] shows
    exact changes ((after shown).symm.trans (last.trans (upToDate was)))
  · intro never shown
    cases now.act_captions withdraws track action untagged never with
    | anew shows caption =>
      exact (sound.lastShown_append [_] shows).trans caption.symm
    | gone _ hidden => cases hidden.symm.trans shown
    | kept shows still caption =>
      have last := sound.lastShown_append [] shows
      exact last.trans ((upToDate (still shown)).trans caption.symm)

/-- As long as the tags of the active item stay, in a run the notification is always up to date
exactly if no message ever relabels what is shown while neither the state nor the track changes. -/
theorem up_to_date_unless_relabelled (blank : c.Blank) (interval : Duration)
    (actions : List (Action σ L))
    (untagged : ∀ earlier action later, actions = earlier ++ action :: later →
      let before := (c.launch interval).after earlier
      ∀ item, before.world.engine.mode.item? = some item →
        (before.act action).world.catalog.tags? item = before.world.catalog.tags? item) :
    let launched := c.launch interval
    (∀ initial, initial <+: actions → launched.UpToDate initial) ↔
    ∀ earlier action later, actions = earlier ++ action :: later →
      ¬ (launched.after earlier).Relabels action := by
  have sound := Sound.launch blank interval
  have start : (c.launch interval).world.engine = { backgrounded := c.signal.background } :=
    (launch_world blank interval).1
  have hidden : (c.launch interval).world.engine.shown = false := by rw [start]
  have withdraws : (c.launch interval).world.engine.Withdraws := by
    rw [start]
    simp [Engine.Withdraws]
  refine forall_prefix_iff (fun shown => ?_) fun earlier action later split upToDate => ?_
  · cases hidden.symm.trans shown
  · exact sound.upToDate_act (sound.withdraws_after withdraws earlier)
      (sound.onTrack_after (launch_onTrack blank interval) earlier)
      (untagged earlier action later split) upToDate

/-- A song plays in the background when a playlist with another name is set that holds it. -/
def renamed : List (Action Obliging Empty) :=
  [.command (.choose .song), .take, .ask, .answer 1 (.ok ⟨⟨1⟩, none⟩), .take,
    .signal .background, .signal (.expire 1), .take,
    .command ⟨.setPlaylist (.collection "New" [.song]), rfl⟩, .take]

theorem renamed_untagged : along retags (obliged.launch .zero) renamed = [] := by decide +kernel

/-- The notification still names the playlist of the song alone. -/
theorem renamed_outdated : ¬ (obliged.launch .zero).UpToDate renamed := by
  have announced := ((Sound.launch obliged_blank .zero).after renamed).announced
  have due : ((obliged.launch .zero).after renamed).world.engine.backgrounded ∧
      ((obliged.launch .zero).after renamed).world.engine.lastState ≠ .stopped := by decide +kernel
  have shown : ((obliged.launch .zero).after renamed).world.engine.shown := by decide +kernel
  have last : (obliged.launch .zero).lastShown renamed =
      some ⟨"song.mp3", some "song.mp3", true, .player⟩ := by decide +kernel
  have caption : ((obliged.launch .zero).after renamed).world.caption? =
      some ⟨"song.mp3", some "New", true, .player⟩ := by decide +kernel
  intro upToDate
  have same := (upToDate_iff announced fun _ => due).mp upToDate shown
  rw [last, caption] at same
  simp at same

/-- What the song's notification says was relabelled by the new playlist. -/
theorem up_to_date_unless_relabelled_renamed :
    ∃ earlier later, renamed = earlier ++ .take :: later ∧
      ((obliged.launch .zero).after earlier).Relabels .take := by
  have upToDate := up_to_date_unless_relabelled obliged_blank .zero renamed
    fun earlier action later split item _ =>
      congrArg (List.lookup item.ref) (untagged_of_along (split ▸ renamed_untagged))
  refine Classical.byContradiction fun never => ?_
  have always := upToDate.mpr fun earlier action later split relabels =>
    never ⟨earlier, later, by rw [split, relabels.1], by rw [← relabels.1]; exact relabels⟩
  exact renamed_outdated (always renamed List.prefix_rfl)

/-- The notification may be out of date although the host refuses nothing and no tags are recorded. -/
theorem exists_outdated : ¬ ∀ (c : Core Obliging Empty), c.Blank →
    ∀ (interval : Duration) (actions : List (Action Obliging Empty)),
    (∀ id content failure, .called (.showNotification id content) (.error failure) ∉
      (c.launch interval).story actions) →
    (∀ id failure, .called (.cancelNotification id) (.error failure) ∉
      (c.launch interval).story actions) →
    along retags (c.launch interval) actions = [] → (c.launch interval).UpToDate actions := by
  intro always
  have unrefused : ∀ id content failure, .called (.showNotification id content) (.error failure) ∉
      (obliged.launch .zero).story renamed := granted_iff_unrefused.mp (by decide +kernel)
  have uncancelled : ∀ id failure, .called (.cancelNotification id) (.error failure) ∉
      (obliged.launch .zero).story renamed := by
    intro id failure mem
    have calls : ∀ call ∈ ((obliged.launch .zero).story renamed).filterMap Effect.call?,
        (call matches .cancelNotification _) = false := by decide +kernel
    have cancels := calls _ (List.mem_filterMap.mpr ⟨_, mem, rfl⟩)
    contradiction
  exact renamed_outdated
    (always obliged obliged_blank .zero renamed unrefused uncancelled renamed_untagged)

end Core
end MediaPlayback
