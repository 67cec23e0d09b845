import MediaPlayback.Proofs.Engine.Front
import MediaPlayback.Proofs.LatestStart

/-! What is published at the end of a turn. Whatever is new is one bulletin for subscribers and for
listeners, on the track first and then on the state. The notification is brought in line whenever
there is a bulletin, and only then. -/

namespace MediaPlayback

/-- Something new about playback. -/
inductive Bulletin where
  | track (item : Option Item) (title : Option String) (index : Option UInt64)
  | state (status : PlaybackState) (item : Option Item)

namespace Bulletin

/-- What subscribers get. -/
def event : Bulletin → PlaybackEvent
  | .track item title index => .trackChanged (item.map (·.path.text)) title index
  | .state status item => .stateChanged status (item.map (·.path.text))

/-- What listeners are told. -/
def notice : Bulletin → Notice
  | .track item _ _ => .trackChanged item
  | .state status _ => .stateChanged status

/-- What every listener of a registry is told, in order. -/
def round {L : Type} (b : Bulletin) (r : Registry L) : List (ListenerId × Notice) :=
  r.entries.map fun entry => (entry.1, b.notice)

end Bulletin

/-- What a caption is made of, besides the tags: the active item and the playlist's name. -/
def Engine.label (e : Engine) : Option Item × Option String :=
  (e.mode.item?, e.cursor.playlist.map (·.name))

instance (e : Engine) : Decidable e.Announced :=
  decidable_of_iff (e.lastState = e.mode.reported ∧ Item.SameOption e.cursor.currentItem? e.lastItem)
    ⟨fun ⟨state, item⟩ => ⟨state, item⟩, fun ⟨state, item⟩ => ⟨state, item⟩⟩

theorem Catalog.notificationContent_congr {c c' : Catalog} {item : Item}
    (tags : c'.tags? item = c.tags? item) (playlistName : Option String) (isPlaying : Bool) :
    c'.notificationContent item playlistName isPlaying =
      c.notificationContent item playlistName isPlaying := by
  simp only [notificationContent, displayTitle, title?, artist?, tags]

namespace World

variable {σ L : Type}

/-- The bulletin on the track, if the current item is another one than was published last. -/
def trackBulletin? (w : World σ L) : Option Bulletin :=
  let item := w.engine.cursor.currentItem?
  if Item.SameOption item w.engine.lastItem then none
  else
    some (.track item (item.map w.catalog.displayTitle)
      (w.engine.cursor.position.map UInt64.ofNat))

/-- The bulletin on the state, if it is another one than was published last. -/
def stateBulletin? (w : World σ L) : Option Bulletin :=
  if w.engine.mode.reported = w.engine.lastState then none
  else some (.state w.engine.mode.reported w.engine.mode.item?)

/-- What the notification has to say: nothing in the foreground or while playback is stopped. -/
def caption? (w : World σ L) : Option NotificationContent :=
  if w.engine.backgrounded ∧ w.engine.mode.reported ≠ .stopped then
    w.engine.mode.item?.map fun item => w.catalog.notificationContent item
      (w.engine.cursor.playlist.map (·.name)) (w.engine.mode.reported == .playing)
  else none

theorem bulletins_of_announced {w : World σ L} (announced : w.engine.Announced) :
    w.trackBulletin? = none ∧ w.stateBulletin? = none :=
  ⟨if_pos announced.item, if_pos announced.state.symm⟩

theorem caption?_isSome (w : World σ L) :
    w.caption?.isSome ↔ w.engine.backgrounded ∧ w.engine.mode.reported ≠ .stopped := by
  unfold caption?
  split
  case isTrue due =>
    refine ⟨fun _ => due, fun _ => ?_⟩
    cases mode : w.engine.mode with
    | idle => simp [mode, Mode.reported] at due
    | _ => rfl
  case isFalse undue => exact ⟨fun some => absurd some Bool.false_ne_true, fun due => absurd due undue⟩

theorem caption?_congr {w w' : World σ L} (label : w'.engine.label = w.engine.label)
    (state : w'.engine.mode.reported = w.engine.mode.reported)
    (backgrounded : w'.engine.backgrounded = w.engine.backgrounded)
    (tags : ∀ item, w.engine.mode.item? = some item →
      w'.catalog.tags? item = w.catalog.tags? item) : w'.caption? = w.caption? := by
  obtain ⟨active, name⟩ := Prod.mk.inj label
  unfold caption?
  rw [active, name, state, backgrounded]
  cases playing : w.engine.mode.item? with
  | none => rfl
  | some item =>
    simp only [Option.map_some, Catalog.notificationContent_congr (tags item playing)]

variable [Surroundings σ L]

theorem tell_front (w : World σ L) (b : Bulletin) :
    (w.tell b.notice).front = { w.front with
      notices := (b.round w.listeners).reverse ++ w.front.notices
      listeners := (w.tell b.notice).listeners } := by
  have fold : ∀ (told : List (Told L Command)) (w : World σ L),
      (told.foldl (recordTold b.notice) w).front = { w.front with
        notices := (told.map fun told => (told.id, b.notice)).reverse ++ w.front.notices } := by
    intro told
    induction told with
    | nil => exact fun _ => rfl
    | cons first rest ih =>
      intro w
      have one : (recordTold b.notice w first).front =
          { w.front with notices := (first.id, b.notice) :: w.front.notices } := by
        unfold recordTold
        cases first.breakdown <;> cases b <;> rfl
      rw [List.foldl_cons, ih, one, List.map_cons, List.reverse_cons, List.append_assoc]
      rfl
  have entries := Registry.tell_listeners
    (fun r id listener outside => Surroundings.react outside r.next id listener b.notice)
    w.listeners.entries w.listeners w.outside
  have round : b.round w.listeners =
      (w.listeners.notify (fun r id listener outside =>
        Surroundings.react outside r.next id listener b.notice) w.outside).1.map
        fun told => (told.id, b.notice) := by
    rw [Bulletin.round, Registry.notify]
    have named := congrArg (List.map fun entry => (entry.1, b.notice)) entries
    rw [List.map_map] at named
    exact named.symm
  have whole : (w.tell b.notice).front = _ := fold _ _
  rw [round, show (w.tell b.notice).listeners = (w.tell b.notice).front.listeners from rfl, whole]
  rfl

theorem publishItem_front (w : World σ L) :
    w.publishItem.front = { w.front with
      news := (w.trackBulletin?.map Bulletin.event).toList ++ w.front.news
      notices := (w.trackBulletin?.toList.flatMap (·.round w.listeners)).reverse ++ w.front.notices
      listeners := w.publishItem.listeners } := by
  unfold publishItem trackBulletin?
  dsimp only
  split
  case isTrue => rfl
  case isFalse =>
    let b : Bulletin := .track w.engine.cursor.currentItem?
      (w.engine.cursor.currentItem?.map w.catalog.displayTitle)
      (w.engine.cursor.position.map UInt64.ofNat)
    have told := fun w' : World σ L => w'.tell_front b
    simp only [Option.toList_some, List.flatMap_singleton, Option.map_some]
    exact congrArg (fun f : Front L => { f with news := b.event :: f.news }) (told _)

theorem publishState_front (w : World σ L) (state : PlaybackState) :
    (w.publishState state).front = { w.front with
      news := (Bulletin.state state w.engine.mode.item?).event :: w.front.news
      notices := ((Bulletin.state state w.engine.mode.item?).round w.listeners).reverse ++
        w.front.notices
      listeners := (w.publishState state).listeners } := by
  let b : Bulletin := .state state w.engine.mode.item?
  let logged := w.log .engine .info "Playback state changed" [("state", state.text)]
  have engine : (logged.tell b.notice).engine = w.engine := tell_engine logged b.notice
  unfold publishState
  dsimp only
  show ((logged.tell b.notice).emit b.event).front = _
  exact congrArg (fun f : Front L => { f with news := b.event :: f.news }) (logged.tell_front b)

/-- Showing the notification is up to the host; it stays as it is if the host does not. -/
theorem showNotification_front (w : World σ L) (content : NotificationContent)
    (state : PlaybackState) : ∃ ok,
    (w.showNotification content state).engine = { w.engine with shown := ok || w.engine.shown } ∧
    (w.showNotification content state).front =
      { w.front with shows := (content, ok) :: w.front.shows } := by
  obtain ⟨result, outside, h⟩ := w.exists_call (.showNotification w.notificationId content)
  unfold showNotification
  rw [h]
  cases result with
  | ok => exact ⟨true, rfl, rfl⟩
  | error => exact ⟨false, rfl, rfl⟩

/-- The notification is shown with its caption, and it is taken away if there is none. -/
theorem refreshNotification_eq (w : World σ L) :
    w.refreshNotification = match w.caption? with
      | some content => w.showNotification content w.engine.mode.reported
      | none => w.hideNotification := by
  unfold refreshNotification present caption?
  cases mode : w.engine.mode with
  | idle =>
    cases w.engine.cursor.currentItem? <;> simp [Mode.item?, Mode.reported]
  | _ =>
    simp only [Mode.item?, Option.some_or, Option.map_some]
    by_cases away : w.engine.backgrounded = true <;>
      simp only [away, Bool.true_and, Bool.false_and] <;> grind

theorem refreshNotification_front (w : World σ L) : ∃ ok,
    w.refreshNotification.engine =
      { w.engine with shown := w.caption?.isSome && (ok || w.engine.shown) } ∧
    w.refreshNotification.front =
      { w.front with shows := (w.caption?.map (·, ok)).toList ++ w.front.shows } := by
  rw [refreshNotification_eq]
  cases w.caption? with
  | none => exact ⟨false, w.hideNotification_engine, w.hideNotification_front⟩
  | some content => exact w.showNotification_front content _

/-- What publishing comes to if something is new: there is a bulletin for each new thing, and the
notification is refreshed. -/
structure Publishes (w : World σ L) (ok : Bool) (w' : World σ L) : Prop where
  engine : w'.engine = w.engine.published (w.caption?.isSome && (ok || w.engine.shown))
  news : w'.front.news = (w.stateBulletin?.map Bulletin.event).toList ++
    ((w.trackBulletin?.map Bulletin.event).toList ++ w.front.news)
  notices : w'.front.notices =
    (w.stateBulletin?.toList.flatMap (·.round w.publishItem.listeners)).reverse ++
      ((w.trackBulletin?.toList.flatMap (·.round w.listeners)).reverse ++ w.front.notices)
  shows : w'.front.shows = (w.caption?.map (·, ok)).toList ++ w.front.shows
  tags : w'.front.tags = w.front.tags
  asked : w'.front.asked = w.front.asked

/-- Once the current item was published, and the wake lock given up unless the engine goes on, the
notification is refreshed and the state published. -/
theorem publishes_of_changed (w : World σ L) (changed : w.engine.mode.reported ≠ w.engine.lastState)
    {w' : World σ L} (engine : w'.engine = { w.engine with
      lastItem := w.engine.announcedItem
      lastState := w.engine.mode.reported
      holdsWakeLock := if w.engine.mode.reported = .stopped then false else w.engine.holdsWakeLock })
    (front : w'.front = w.publishItem.front) :
    ∃ ok, w.Publishes ok (w'.refreshNotification.publishState w.engine.mode.reported) := by
  have loud : w.stateBulletin? = some (.state w.engine.mode.reported w.engine.mode.item?) :=
    if_neg changed
  have item := front.trans w.publishItem_front
  have told : w'.caption? = w.caption? :=
    caption?_congr (by rw [engine]; rfl) (by rw [engine]) (by rw [engine]) fun item' _ =>
      congrArg (fun f : Front L => List.lookup item'.ref f.tags) item
  obtain ⟨ok, shown, refreshed⟩ := w'.refreshNotification_front
  have state := w'.refreshNotification.publishState_front w.engine.mode.reported
  have mode : w'.refreshNotification.engine.mode = w.engine.mode := by rw [shown, engine]
  have listeners : w'.refreshNotification.listeners = w.publishItem.listeners :=
    (congrArg Front.listeners refreshed).trans (congrArg Front.listeners front)
  refine ⟨ok, ?_, ?_, ?_, ?_, ?_, ?_⟩
  · rw [publishState_engine, shown, told, engine, Engine.published]
    split <;> grind
  · rw [state, refreshed, item, mode, loud]
    rfl
  · rw [state, refreshed, item, mode, listeners, loud]
    simp
  · rw [state, refreshed, item, told]
  · rw [state, refreshed, item]
  · rw [state, refreshed, item]

theorem publish_of_unannounced (w : World σ L) (new : ¬ w.engine.Announced) :
    ∃ ok, w.Publishes ok w.publish := by
  unfold publish
  dsimp only
  rw [publishItem_engine]
  split
  case isTrue same =>
    have same : w.engine.mode.reported = w.engine.lastState := same
    have changed : ¬ Item.SameOption w.engine.cursor.currentItem? w.engine.lastItem :=
      fun known => new ⟨same.symm, known⟩
    have awake : ¬ (w.engine.mode.reported = .stopped ∧ w.engine.lastState ≠ .stopped) :=
      fun stopped => stopped.2 (same ▸ stopped.1)
    have silent : w.stateBulletin? = none := if_pos same
    have item := w.publishItem_front
    have told : w.publishItem.caption? = w.caption? :=
      caption?_congr (by rw [publishItem_engine]; rfl) (by rw [publishItem_engine])
        (by rw [publishItem_engine]) fun item' _ =>
          congrArg (fun f : Front L => List.lookup item'.ref f.tags) item
    obtain ⟨ok, shown, refreshed⟩ := w.publishItem.refreshNotification_front
    rw [if_pos changed]
    refine ⟨ok, ?_, ?_, ?_, ?_, ?_, ?_⟩
    · rw [shown, told, publishItem_engine, Engine.published, if_neg awake, same]
    · rw [refreshed, item, silent]
      rfl
    · rw [refreshed, item, silent]
      rfl
    · rw [refreshed, item, told]
    · rw [refreshed, item]
    · rw [refreshed, item]
  case isFalse changed =>
    apply w.publishes_of_changed changed
    · dsimp only
      split
      · rw [releaseWakeLock_engine]
      · rfl
    · dsimp only
      split
      · exact releaseWakeLock_front _
      · rfl

/-- Subscribers get the bulletin on the track first. -/
theorem publish_news (w : World σ L) : w.publish.front.news =
    (w.stateBulletin?.map Bulletin.event).toList ++
      ((w.trackBulletin?.map Bulletin.event).toList ++ w.front.news) := by
  by_cases announced : w.engine.Announced
  · obtain ⟨track, state⟩ := bulletins_of_announced announced
    rw [publish_of_announced w announced, track, state]
    rfl
  · obtain ⟨ok, publishes⟩ := w.publish_of_unannounced announced
    exact publishes.news

/-- All listeners are told of the track before the first one is told of the state. -/
theorem publish_notices (w : World σ L) : w.publish.front.notices =
    (w.stateBulletin?.toList.flatMap (·.round w.publishItem.listeners)).reverse ++
      ((w.trackBulletin?.toList.flatMap (·.round w.listeners)).reverse ++ w.front.notices) := by
  by_cases announced : w.engine.Announced
  · obtain ⟨track, state⟩ := bulletins_of_announced announced
    rw [publish_of_announced w announced, track, state]
    rfl
  · obtain ⟨ok, publishes⟩ := w.publish_of_unannounced announced
    exact publishes.notices

theorem publish_asked (w : World σ L) : w.publish.front.asked = w.front.asked := by
  by_cases announced : w.engine.Announced
  · rw [publish_of_announced w announced]
  · obtain ⟨ok, publishes⟩ := w.publish_of_unannounced announced
    exact publishes.asked

/-- A tick of the clock reports at most the position of the item that is playing, and with it what is
known of the item's duration. -/
theorem onTick_report (w : World σ L) : ∃ report : Option PlaybackEvent,
    w.onTick.front = { w.front with news := report.toList ++ w.front.news } ∧
    ∀ event ∈ report, ∃ item session position, w.engine.mode = .playing item session ∧
      event = .positionChanged item.path.text position
        ((w.catalog.duration? item).elim 0 (·.millis64)) := by
  unfold onTick
  split
  case h_1 item session playing =>
    have asked := w.sessionPosition_front session
    have known := w.sessionPosition_catalog session
    generalize w.sessionPosition session = answer at asked known ⊢
    rcases answer with ⟨_ | position, w'⟩
    · exact ⟨none, asked, nofun⟩
    · refine ⟨some (.positionChanged item.path.text position.millis64
        ((w'.catalog.duration? item).elim 0 (·.millis64))), ?_, ?_⟩
      · have asked : w'.front = w.front := asked
        rw [← asked]
        rfl
      · rintro event ⟨⟩
        have known : w'.catalog = w.catalog := known
        exact ⟨item, session, position.millis64, playing, by rw [known]⟩
  case h_2 => exact ⟨none, rfl, nofun⟩

/-- A tick of the clock reports at most the position of the item that is playing. -/
theorem onTick_front (w : World σ L) : ∃ report : Option PlaybackEvent,
    w.onTick.front = { w.front with news := report.toList ++ w.front.news } ∧
    ∀ event ∈ report, ∃ item session position duration, w.engine.mode = .playing item session ∧
      event = .positionChanged item.path.text position duration := by
  obtain ⟨report, front, told⟩ := w.onTick_report
  refine ⟨report, front, fun event mem => ?_⟩
  obtain ⟨item, session, position, playing, same⟩ := told event mem
  exact ⟨item, session, position, _, playing, same⟩

/-- The app moved to the background. -/
def away (w : World σ L) : World σ L := { w with engine := { w.engine with backgrounded := true } }

/-- In the background the notification is shown unless playback is stopped. -/
theorem onBackground_front (w : World σ L) : ∃ lock ok,
    (w.onLifecycle .becameBackground).engine = { w.away.engine with
      holdsWakeLock := lock
      shown := w.away.caption?.isSome && ok || w.engine.shown } ∧
    (w.engine.mode.reported = .stopped → lock = w.engine.holdsWakeLock) ∧
    (w.onLifecycle .becameBackground).front = { w.front with
      shows := (w.away.caption?.map (·, ok)).toList ++ w.front.shows } := by
  have due := w.away.caption?_isSome
  unfold onLifecycle
  dsimp only
  split
  case isTrue stopped =>
    have stopped : w.engine.mode.reported = .stopped := stopped
    have nothing : w.away.caption? = none := if_neg fun due => due.2 stopped
    refine ⟨w.engine.holdsWakeLock, false, ?_, fun _ => rfl, ?_⟩ <;> rw [nothing] <;> rfl
  case isFalse active =>
    have active : w.engine.mode.reported ≠ .stopped := active
    have locked : ∀ w' : World σ L, w'.front = w.front →
        (∃ lock, w'.engine = { w.away.engine with holdsWakeLock := lock }) → ∃ lock ok,
        w'.refreshNotification.engine = { w.away.engine with
          holdsWakeLock := lock
          shown := w.away.caption?.isSome && ok || w.engine.shown } ∧
        (w.engine.mode.reported = .stopped → lock = w.engine.holdsWakeLock) ∧
        w'.refreshNotification.front = { w.front with
          shows := (w.away.caption?.map (·, ok)).toList ++ w.front.shows } := by
      rintro w' front ⟨lock, engine⟩
      obtain ⟨ok, shown, shows⟩ := w'.refreshNotification_front
      have told : w'.caption? = w.away.caption? :=
        caption?_congr (by rw [engine]; rfl) (by rw [engine]) (by rw [engine]) fun item _ =>
          congrArg (fun f : Front L => List.lookup item.ref f.tags) front
      refine ⟨lock, ok, ?_, fun stopped => absurd stopped active, ?_⟩
      · rw [shown, told, engine, due.mpr ⟨rfl, active⟩, Bool.true_and, Bool.true_and]
        rfl
      · rw [shows, told, front]
    have seen := w.away.screenOn_front
    have engine := w.away.screenOn_engine
    rw [show { w with engine := { w.engine with backgrounded := true } } = w.away from rfl]
    generalize w.away.screenOn = answer at seen engine ⊢
    rcases answer with ⟨_ | _, w'⟩
    · exact locked w' seen ⟨w.engine.holdsWakeLock, engine⟩
    · obtain ⟨lock, locks⟩ := w'.acquireWakeLock_engine
      have engine : w'.engine = w.away.engine := engine
      exact locked w'.acquireWakeLock (w'.acquireWakeLock_front.trans seen)
        ⟨lock, by rw [locks, engine]⟩

/-- In the foreground there is no notification. -/
theorem onForeground_front (w : World σ L) :
    (w.onLifecycle .becameForeground).engine =
      { w.engine with backgrounded := false, holdsWakeLock := false, shown := false } ∧
    (w.onLifecycle .becameForeground).front = w.front := by
  unfold onLifecycle
  dsimp only
  rw [hideNotification_engine, releaseWakeLock_engine, hideNotification_front,
    releaseWakeLock_front]
  exact ⟨rfl, rfl⟩

end World
end MediaPlayback
