import MediaPlayback.Proofs.Engine.Passage

/-! What becomes known about items. The engine looks things up in the catalog wherever it speaks of an
item, but it records something only when the prepare that it awaits tells a duration. -/

namespace MediaPlayback

/-- All durations that are known in one catalog are known in another one. -/
def Catalog.Extends (known later : Catalog) : Prop :=
  ∀ item d, known.duration? item = some d → later.duration? item = some d

namespace Catalog.Extends

variable {known later last : Catalog}

theorem refl (known : Catalog) : known.Extends known := fun _ _ there => there

theorem trans (first : known.Extends later) (second : later.Extends last) : known.Extends last :=
  fun item d there => second item d (first item d there)

theorem recordDuration (known : Catalog) (item : Item) (d : Duration) :
    known.Extends (known.recordDuration item d) := by
  intro other first there
  rw [Catalog.duration?_recordDuration]
  split
  case isTrue same =>
    have there : known.duration? item = some first := by rwa [duration?, ← same]
    rw [there, Option.getD_some]
  case isFalse => exact there

theorem of_durations (same : later.durations = known.durations) : known.Extends later := by
  intro item d there
  rwa [duration?, same]

theorem ofAttachment (known : Catalog) (transferId : String) (a : Attachment)
    (conversation : Option Conversation) :
    known.Extends (known.ofAttachment transferId a conversation).2 := by
  have tagged (c : Catalog) (item : Item) (t : Tags) : c.Extends (c.recordTags item t) := by
    unfold recordTags
    split <;> exact .of_durations rfl
  have made : known.Extends { known with next := known.next + 1 } := .of_durations rfl
  unfold Catalog.ofAttachment newItem
  dsimp only
  split
  · split
    · exact made.trans ((tagged _ _ _).trans (.recordDuration _ _ _))
    · exact made.trans (.recordDuration _ _ _)
  · split
    · exact made.trans (tagged _ _ _)
    · exact made

end Catalog.Extends

/-- The item and the duration that a message tells the engine, if it is the answer that is awaited. -/
def Engine.learns? (e : Engine) : Message → Option (Item × Duration)
  | .prepared id item (.ok prepared) =>
    if e.mode.awaited?.any (·.1 = id) then prepared.duration.map (item, ·) else none
  | _ => none

namespace World

variable {σ L : Type}

@[simp] theorem moveCursor_catalog (w : World σ L) (index : Nat) :
    (w.moveCursor index).catalog = w.catalog := by
  unfold moveCursor
  split <;> rfl

@[simp] theorem recordTold_catalog (notice : Notice) (w : World σ L) (told : Told L Command) :
    (recordTold notice w told).catalog = w.catalog := by
  unfold recordTold
  dsimp only
  split <;> rfl

variable [Surroundings σ L]

@[simp] theorem tell_catalog (w : World σ L) (notice : Notice) :
    (w.tell notice).catalog = w.catalog := by
  have fold : ∀ (told : List (Told L Command)) (w : World σ L),
      (told.foldl (recordTold notice) w).catalog = w.catalog := by
    intro told
    induction told with
    | nil => exact fun _ => rfl
    | cons first rest ih => exact fun w => (ih _).trans (recordTold_catalog notice w first)
  exact fold _ _

@[simp] theorem acquireFocus_catalog (w : World σ L) : w.acquireFocus.2.catalog = w.catalog := by
  unfold acquireFocus
  split
  · rfl
  · obtain ⟨result, outside, h⟩ := w.exists_call .requestFocus
    rw [h]
    rcases result with e | (_ | _) <;> rfl

@[simp] theorem releaseFocus_catalog (w : World σ L) : w.releaseFocus.catalog = w.catalog := by
  unfold releaseFocus
  split
  · obtain ⟨result, outside, h⟩ :=
      exists_call { w with engine := { w.engine with hasFocus := false } } .abandonFocus
    rw [h]
    cases result <;> rfl
  · rfl

@[simp] theorem acquireWakeLock_catalog (w : World σ L) : w.acquireWakeLock.catalog = w.catalog := by
  unfold acquireWakeLock
  split
  · rfl
  · obtain ⟨result, outside, h⟩ :=
      w.exists_call (.acquireWakeLock wakeLockTag w.settings.wakeLockTimeout)
    rw [h]
    cases result <;> rfl

@[simp] theorem releaseWakeLock_catalog (w : World σ L) : w.releaseWakeLock.catalog = w.catalog := by
  unfold releaseWakeLock
  split
  · obtain ⟨result, outside, h⟩ :=
      exists_call { w with engine := { w.engine with holdsWakeLock := false } }
        (.releaseWakeLock wakeLockTag)
    rw [h]
    cases result <;> rfl
  · rfl

@[simp] theorem screenOn_catalog (w : World σ L) : w.screenOn.2.catalog = w.catalog := by
  obtain ⟨result, outside, h⟩ := w.exists_call .isScreenOn
  unfold screenOn
  rw [h]
  cases result <;> rfl

@[simp] theorem unload_catalog (w : World σ L) (span : Option String) (session : SessionId) :
    (w.unload span session).catalog = w.catalog := by
  obtain ⟨result, outside, h⟩ := w.exists_call (.unload session)
  unfold unload
  rw [h]
  cases result <;> rfl

@[simp] theorem destroyOutput_catalog (w : World σ L) (span : Option String) :
    (w.destroyOutput span).catalog = w.catalog := by
  unfold destroyOutput
  split
  · rfl
  · exact unload_catalog _ span _

@[simp] theorem adopt_catalog (w : World σ L) (session : SessionId) :
    (w.adopt session).catalog = w.catalog := by
  unfold adopt
  split
  · rfl
  · exact w.destroyOutput_catalog none

@[simp] theorem discard_catalog (w : World σ L) (session : SessionId) :
    (w.discard session).catalog = w.catalog := by
  unfold discard
  split <;> simp

@[simp] theorem hideNotification_catalog (w : World σ L) :
    w.hideNotification.catalog = w.catalog := by
  unfold hideNotification
  split
  · obtain ⟨result, outside, h⟩ := w.exists_call (.cancelNotification w.notificationId)
    rw [h]
    cases result <;> rfl
  · rfl

@[simp] theorem showNotification_catalog (w : World σ L) (content : NotificationContent)
    (state : PlaybackState) : (w.showNotification content state).catalog = w.catalog := by
  obtain ⟨result, outside, h⟩ := w.exists_call (.showNotification w.notificationId content)
  unfold showNotification
  rw [h]
  cases result <;> rfl

@[simp] theorem refreshNotification_catalog (w : World σ L) :
    w.refreshNotification.catalog = w.catalog := by
  unfold refreshNotification present
  dsimp only
  split
  · split <;> simp
  · simp

/-! ## Transitions -/

@[simp] theorem stop_catalog (w : World σ L) : w.stop.catalog = w.catalog := by
  unfold stop
  rw [releaseFocus_catalog, destroyOutput_catalog]
  rfl

@[simp] theorem fail_catalog (w : World σ L) (item : Item) (failure : PlaybackError) :
    (w.fail item failure).catalog = w.catalog := by
  unfold fail
  rw [stop_catalog]
  rfl

@[simp] theorem reset_catalog (w : World σ L) : w.reset.catalog = w.catalog := by
  unfold reset releaseAll
  rw [hideNotification_catalog]
  exact (releaseWakeLock_catalog _).trans
    ((releaseFocus_catalog _).trans (destroyOutput_catalog _ none))

@[simp] theorem start_catalog (w : World σ L) (item : Item) (autoplay : Bool)
    (seekTo : Option Duration) : (w.start item autoplay seekTo).catalog = w.catalog :=
  destroyOutput_catalog _ replacing

@[simp] theorem begin_catalog (w : World σ L) (item : Item) (session : SessionId) :
    (w.begin item session).catalog = w.catalog := by
  unfold begin
  have focused := w.acquireFocus_catalog
  generalize w.acquireFocus = answer at focused ⊢
  rcases answer with ⟨_ | _, w'⟩
  · exact (destroyOutput_catalog _ none).trans focused
  · have plays : (w'.playSession session).2.catalog = w.catalog := focused
    dsimp only
    generalize w'.playSession session = answer at plays ⊢
    rcases answer with ⟨_ | _, w''⟩
    · exact (fail_catalog _ _ _).trans plays
    · exact plays

@[simp] theorem resume_catalog (w : World σ L) (item : Item) (session : SessionId) :
    (w.resume item session).catalog = w.catalog := by
  unfold resume
  have focused := w.acquireFocus_catalog
  generalize w.acquireFocus = answer at focused ⊢
  rcases answer with ⟨_ | _, w'⟩
  · exact focused
  · have plays : (w'.playSession session).2.catalog = w.catalog := focused
    dsimp only
    generalize w'.playSession session = answer at plays ⊢
    rcases answer with ⟨_ | _, w''⟩
    · exact (fail_catalog _ _ _).trans plays
    · exact plays

@[simp] theorem pause_catalog (w : World σ L) : w.pause.catalog = w.catalog := by
  unfold pause
  split
  case h_1 item session playing =>
    have paused : (w.pauseSession session).2.catalog = w.catalog := rfl
    generalize w.pauseSession session = answer at paused ⊢
    rcases answer with ⟨_ | _, w'⟩
    · exact (fail_catalog _ _ _).trans paused
    · exact paused
  case h_2 => rfl
  case h_3 => rfl

@[simp] theorem navigate_catalog (w : World σ L) (ahead : Bool) :
    (w.navigate ahead).catalog = w.catalog := by
  unfold navigate
  dsimp only
  generalize (if ahead then w.engine.cursor.forward else w.engine.cursor.backward) = moved
  split
  · rfl
  · split
    · exact start_catalog _ _ _ _
    · exact reset_catalog _

/-! ## Messages -/

@[simp] theorem play_catalog (w : World σ L) : w.play.catalog = w.catalog := by
  unfold play
  dsimp only
  split
  · exact resume_catalog _ _ _
  · rfl
  · split
    · exact start_catalog _ _ _ _
    · rfl
  · rfl

@[simp] theorem playItem_catalog (w : World σ L) (item : Item) :
    (w.playItem item).catalog = w.catalog := by
  unfold playItem
  rw [start_catalog]
  split
  · exact w.moveCursor_catalog _
  · rfl

@[simp] theorem toggle_catalog (w : World σ L) : w.toggle.catalog = w.catalog := by
  unfold toggle
  split
  · exact pause_catalog _
  · exact w.play_catalog

@[simp] theorem seekSession_catalog (w : World σ L) (session : SessionId) (position : Duration) :
    (w.seekSession session position).2.catalog = w.catalog := rfl

@[simp] theorem seek_catalog (w : World σ L) (position : Duration) :
    (w.seek position).catalog = w.catalog := by
  have within : ∀ session, (w.seekWithin session position).catalog = w.catalog := by
    intro session
    unfold seekWithin
    have sought := w.seekSession_catalog session position
    generalize w.seekSession session position = answer at sought ⊢
    rcases answer with ⟨_ | _, w'⟩ <;> exact sought
  unfold seek
  split
  · exact within _
  · exact within _
  · rfl
  · split
    · exact start_catalog _ _ _ _
    · rfl

@[simp] theorem playInPlaylist_catalog (w : World σ L) (item : Item) (playlist : Playlist) :
    (w.playInPlaylist item playlist).catalog = w.catalog := by
  unfold playInPlaylist
  split
  · split
    · exact w.resume_catalog _ _
    · rfl
    · rfl
  · split
    · dsimp only
      rw [start_catalog]
      split
      · exact moveCursor_catalog _ _
      · rfl
    · rfl

@[simp] theorem setPlaylist_catalog (w : World σ L) (playlist : Playlist) :
    (w.setPlaylist playlist).catalog = w.catalog := by
  unfold setPlaylist
  dsimp only
  split
  · rfl
  · split
    · exact moveCursor_catalog _ _
    · exact stop_catalog _

@[simp] theorem setIndex_catalog (w : World σ L) (index : Nat) :
    (w.setIndex index).2.catalog = w.catalog := by
  unfold setIndex
  dsimp only
  split
  · rfl
  · split
    · rfl
    · split
      · rfl
      · split
        · rfl
        · exact start_catalog _ _ _ _

@[simp] theorem progress_catalog (w : World σ L) : w.progress.2.catalog = w.catalog := by
  unfold progress
  split
  · exact w.sessionPosition_catalog _
  · rfl

@[simp] theorem seekPrepared_catalog (w : World σ L) (session : SessionId)
    (seekTo : Option Duration) : (w.seekPrepared session seekTo).catalog = w.catalog := by
  unfold seekPrepared
  split
  case h_1 => rfl
  case h_2 position =>
    have sought := w.seekSession_catalog session position
    generalize w.seekSession session position = answer at sought ⊢
    rcases answer with ⟨_ | _, w'⟩ <;> exact sought

/-- The duration of a session that was prepared is recorded. -/
theorem settlePrepared_catalog (w : World σ L) (request : PrepareRequest) (item : Item)
    (prepared : PreparedSession) :
    (w.settlePrepared request item (.ok prepared)).catalog =
      prepared.duration.elim w.catalog (w.catalog.recordDuration item) := by
  have settled (w' : World σ L) : (if request.autoplay then
      (w'.seekPrepared prepared.session request.seekTo).begin item prepared.session
    else (w'.seekPrepared prepared.session request.seekTo).setMode
      (.paused item prepared.session)).catalog = w'.catalog := by
    split
    · rw [begin_catalog, seekPrepared_catalog]
    · exact seekPrepared_catalog _ _ _
  have adopted : ((w.setMode .idle).adopt prepared.session).catalog = w.catalog :=
    adopt_catalog _ prepared.session
  unfold settlePrepared
  dsimp only
  rw [settled]
  cases prepared.duration with
  | none => exact adopted
  | some d => exact congrArg (·.recordDuration item d) adopted

@[simp] theorem discardPrepared_catalog (w : World σ L) (id : Nat)
    (result : Except HostError PreparedSession) :
    (w.discardPrepared id result).catalog = w.catalog := by
  unfold discardPrepared
  cases result with
  | error => rfl
  | ok prepared => exact discard_catalog _ prepared.session

theorem onPrepared_catalog (w : World σ L) (id : Nat) (item : Item)
    (result : Except HostError PreparedSession) :
    (w.onPrepared id item result).catalog = (w.engine.learns? (.prepared id item result)).elim
      w.catalog fun found => w.catalog.recordDuration found.1 found.2 := by
  have failed (request : PrepareRequest) (failure : HostError) :
      (w.settlePrepared request item (.error failure)).catalog = w.catalog := stop_catalog _
  unfold onPrepared Engine.learns?
  cases mode : w.engine.mode with
  | preparing active request =>
    dsimp only
    split
    case isTrue current =>
      cases result with
      | error failure => exact failed request failure
      | ok prepared =>
        rw [settlePrepared_catalog]
        simp only [Mode.awaited?, Option.any_some, current, decide_true, if_true]
        cases prepared.duration <;> rfl
    case isFalse late =>
      rw [discardPrepared_catalog]
      cases result with
      | error => rfl
      | ok => simp [Mode.awaited?, late]
  | idle | playing | paused =>
    dsimp only
    rw [discardPrepared_catalog]
    cases result with
    | error => rfl
    | ok => simp [Mode.awaited?]

@[simp] theorem onOutput_catalog (w : World σ L) (event : OutputEvent) :
    (w.onOutput event).catalog = w.catalog := by
  have replayed : ∀ (w : World σ L) session, (w.replay session).2.catalog = w.catalog := by
    intro w session
    unfold replay
    have sought := w.seekSession_catalog session .zero
    generalize w.seekSession session .zero = answer at sought ⊢
    rcases answer with ⟨_ | _, w'⟩ <;> exact sought
  have completed : ∀ item session, (w.onCompleted item session).catalog = w.catalog := by
    intro item session
    unfold onCompleted
    dsimp only
    have logged : (w.log .engine .debug "Playback completed" [("file", item.fileName)]).catalog =
      w.catalog := rfl
    generalize w.log .engine .debug "Playback completed" [("file", item.fileName)] = w' at logged ⊢
    rw [← logged]
    split
    · have again := replayed w' session
      generalize w'.replay session = answer at again ⊢
      rcases answer with ⟨_ | _, w''⟩
      · exact (start_catalog _ _ _ _).trans again
      · exact again
    · split
      · exact w'.navigate_catalog true
      · exact w'.reset_catalog
  have live : ∀ item session, (w.onLiveOutput item session event).catalog = w.catalog := by
    intro item session
    cases event with
    | completed => exact completed item session
    | failed => rfl
  unfold onOutput
  split
  · split
    · exact live _ _
    · rfl
  · split
    · exact live _ _
    · rfl
  · rfl

@[simp] theorem onFocus_catalog (w : World σ L) (change : FocusChange) :
    (w.onFocus change).catalog = w.catalog := by
  unfold onFocus
  dsimp only
  cases change with
  | lost =>
    dsimp only
    rw [releaseFocus_catalog]
    split
    · exact pause_catalog _
    · rfl
  | lostTransient =>
    dsimp only
    split
    · exact pause_catalog _
    · rfl
  | gained =>
    dsimp only
    split
    · split
      · exact resume_catalog _ _ _
      · rfl
    · rfl

@[simp] theorem onLifecycle_catalog (w : World σ L) (event : LifecycleEvent) :
    (w.onLifecycle event).catalog = w.catalog := by
  cases event with
  | becameBackground =>
    unfold onLifecycle
    dsimp only
    split
    · rfl
    · rw [refreshNotification_catalog]
      split
      · rw [acquireWakeLock_catalog]
        exact screenOn_catalog _
      · exact screenOn_catalog _
  | becameForeground => exact (hideNotification_catalog _).trans (releaseWakeLock_catalog _)

@[simp] theorem onTick_catalog (w : World σ L) : w.onTick.catalog = w.catalog := by
  unfold onTick
  split
  case h_1 item session playing =>
    have asked := w.sessionPosition_catalog session
    generalize w.sessionPosition session = answer at asked ⊢
    rcases answer with ⟨_ | position, w'⟩ <;> exact asked
  case h_2 => rfl

/-- Nothing becomes known by a message but the duration that the engine learns from it. -/
theorem handle_catalog (w : World σ L) (m : Message) :
    (w.handle m).catalog = (w.engine.learns? m).elim w.catalog fun found =>
      w.catalog.recordDuration found.1 found.2 := by
  cases m with
  | prepared id item result => exact w.onPrepared_catalog id item result
  | play => exact w.play_catalog
  | playItem item => exact w.playItem_catalog item
  | pause => exact pause_catalog _
  | toggle => exact w.toggle_catalog
  | forward => exact w.navigate_catalog true
  | backward => exact w.navigate_catalog false
  | reset => exact w.reset_catalog
  | seek position => exact w.seek_catalog position
  | setRepeatMode | setShuffle | snapshot | shutdown => rfl
  | playInPlaylist item playlist => exact w.playInPlaylist_catalog item playlist
  | setPlaylist playlist => exact w.setPlaylist_catalog playlist
  | setIndex index => exact w.setIndex_catalog index
  | progress => exact w.progress_catalog
  | output event => exact w.onOutput_catalog event
  | focus change => exact w.onFocus_catalog change
  | lifecycle event => exact w.onLifecycle_catalog event
  | tick => exact w.onTick_catalog

@[simp] theorem publish_catalog (w : World σ L) : w.publish.catalog = w.catalog := by
  have item : w.publishItem.catalog = w.catalog := by
    unfold publishItem
    dsimp only
    split
    · rfl
    · exact tell_catalog _ _
  have state : ∀ (w : World σ L) state, (w.publishState state).catalog = w.catalog :=
    fun w state => tell_catalog _ _
  unfold publish
  dsimp only
  split
  · split
    · rw [refreshNotification_catalog, item]
    · exact item
  · rw [state, refreshNotification_catalog]
    split
    · rw [releaseWakeLock_catalog]
      exact item
    · exact item

theorem turn_catalog (w : World σ L) (m : Message) :
    (w.turn m).catalog = (w.engine.learns? m).elim w.catalog fun found =>
      w.catalog.recordDuration found.1 found.2 := by
  rw [turn, publish_catalog, handle_catalog]
  rfl

theorem teardown_catalog (w : World σ L) : w.teardown.catalog = w.catalog := by
  have reset : w.reset.publish.catalog = w.catalog := by rw [publish_catalog, reset_catalog]
  exact reset

end World
end MediaPlayback
