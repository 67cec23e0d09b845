import MediaPlayback.Proofs.Relocation.World

/-! What an engine does with a message does not depend on the directories of its files: worlds that
correspond still do so after a turn. There is one lemma for each operation. Where an operation asks the
host, both hosts give the same answer. -/

namespace MediaPlayback.World.Moved

variable {σ L : Type} [Surroundings σ L] {r : Relocation σ L} {w w' : World σ L}

theorem acquireFocus (moved : w.Moved r w') : Agrees r w.acquireFocus w'.acquireFocus := by
  unfold World.acquireFocus
  rw [moved.engine.hasFocus]
  split
  · exact ⟨true, _, _, rfl, rfl, moved⟩
  · obtain ⟨answer, v, v', h, h', moved⟩ := moved.call .requestFocus nofun
    rw [h, h']
    rcases answer with e | (_ | _)
    · exact ⟨false, _, _, rfl, rfl, moved.log ..⟩
    · refine ⟨true, _, _, rfl, rfl, log ?_ ..⟩
      exact { moved with engine := { moved.engine with hasFocus := rfl } }
    · exact ⟨false, _, _, rfl, rfl, moved.log ..⟩

theorem releaseFocus (moved : w.Moved r w') : w.releaseFocus.Moved r w'.releaseFocus := by
  unfold World.releaseFocus
  rw [moved.engine.hasFocus]
  split
  · have given : Moved r { w with engine := { w.engine with hasFocus := false } }
        { w' with engine := { w'.engine with hasFocus := false } } :=
      { moved with engine := { moved.engine with hasFocus := rfl } }
    obtain ⟨answer, v, v', h, h', moved⟩ := given.call .abandonFocus nofun
    rw [h, h']
    cases answer with
    | ok => exact moved
    | error => exact moved.log ..
  · exact moved

theorem acquireWakeLock (moved : w.Moved r w') : w.acquireWakeLock.Moved r w'.acquireWakeLock := by
  unfold World.acquireWakeLock
  rw [moved.engine.holdsWakeLock, moved.settings]
  split
  · exact moved
  · obtain ⟨answer, v, v', h, h', moved⟩ :=
      moved.call (.acquireWakeLock wakeLockTag w.settings.wakeLockTimeout) nofun
    rw [h, h']
    cases answer with
    | ok =>
      refine log ?_ ..
      exact { moved with engine := { moved.engine with holdsWakeLock := rfl } }
    | error => exact moved.log ..

theorem releaseWakeLock (moved : w.Moved r w') : w.releaseWakeLock.Moved r w'.releaseWakeLock := by
  unfold World.releaseWakeLock
  rw [moved.engine.holdsWakeLock]
  split
  · have given : Moved r { w with engine := { w.engine with holdsWakeLock := false } }
        { w' with engine := { w'.engine with holdsWakeLock := false } } :=
      { moved with engine := { moved.engine with holdsWakeLock := rfl } }
    obtain ⟨answer, v, v', h, h', moved⟩ := given.call (.releaseWakeLock wakeLockTag) nofun
    rw [h, h']
    cases answer with
    | ok => exact moved
    | error => exact moved.log ..
  · exact moved

theorem screenOn (moved : w.Moved r w') : Agrees r w.screenOn w'.screenOn := by
  unfold World.screenOn
  obtain ⟨answer, v, v', h, h', moved⟩ := moved.call .isScreenOn nofun
  rw [h, h']
  cases answer with
  | ok on => exact ⟨on, _, _, rfl, rfl, moved⟩
  | error => exact ⟨false, _, _, rfl, rfl, moved.log ..⟩

theorem unload (moved : w.Moved r w') (span : Option String) (session : SessionId) :
    (w.unload span session).Moved r (w'.unload span session) := by
  unfold World.unload
  obtain ⟨answer, v, v', h, h', moved⟩ := moved.call (.unload session) nofun
  rw [h, h']
  cases answer with
  | ok => exact moved
  | error => exact moved.logWithin ..

theorem destroyOutput (moved : w.Moved r w') (span : Option String) :
    (w.destroyOutput span).Moved r (w'.destroyOutput span) := by
  unfold World.destroyOutput
  rw [moved.engine.live]
  split
  · exact moved
  · refine logWithin (unload ?_ ..) ..
    exact { moved with engine := { moved.engine with live := rfl } }

theorem adopt (moved : w.Moved r w') (session : SessionId) :
    (w.adopt session).Moved r (w'.adopt session) := by
  unfold World.adopt
  rw [moved.engine.live]
  split
  · exact moved
  · have destroyed := moved.destroyOutput none
    refine unlogged ?_ _ _ rfl rfl
    exact { destroyed with engine := { destroyed.engine with live := rfl } }

theorem discard (moved : w.Moved r w') (session : SessionId) :
    (w.discard session).Moved r (w'.discard session) := by
  unfold World.discard
  rw [moved.engine.live]
  split
  · exact moved
  · exact moved.unload none session

theorem playSession (moved : w.Moved r w') (session : SessionId) :
    Agrees r (w.playSession session) (w'.playSession session) := by
  unfold World.playSession
  obtain ⟨answer, v, v', h, h', moved⟩ := moved.call (.play session) nofun
  rw [h, h']
  exact ⟨_, _, _, rfl, rfl, moved⟩

theorem pauseSession (moved : w.Moved r w') (session : SessionId) :
    Agrees r (w.pauseSession session) (w'.pauseSession session) := by
  unfold World.pauseSession
  obtain ⟨answer, v, v', h, h', moved⟩ := moved.call (.pause session) nofun
  rw [h, h']
  exact ⟨_, _, _, rfl, rfl, moved⟩

theorem seekSession (moved : w.Moved r w') (session : SessionId) (position : Duration) :
    Agrees r (w.seekSession session position) (w'.seekSession session position) := by
  unfold World.seekSession
  obtain ⟨answer, v, v', h, h', moved⟩ := moved.call (.seek session position) nofun
  rw [h, h']
  exact ⟨_, _, _, rfl, rfl, moved⟩

theorem sessionPosition (moved : w.Moved r w') (session : SessionId) :
    Agrees r (w.sessionPosition session) (w'.sessionPosition session) := by
  unfold World.sessionPosition
  obtain ⟨answer, v, v', h, h', moved⟩ := moved.call (.position session) nofun
  rw [h, h']
  cases answer with
  | ok position => exact ⟨some position, _, _, rfl, rfl, moved⟩
  | error => exact ⟨none, _, _, rfl, rfl, moved.log ..⟩

theorem releaseAll (moved : w.Moved r w') : w.releaseAll.Moved r w'.releaseAll :=
  ((moved.destroyOutput none).releaseFocus).releaseWakeLock

theorem hideNotification (moved : w.Moved r w') :
    w.hideNotification.Moved r w'.hideNotification := by
  unfold World.hideNotification World.notificationId
  rw [moved.engine.shown, moved.settings]
  split
  · have hidden : ∀ {v v' : World σ L}, v.Moved r v' →
        Moved r { v with engine := { v.engine with shown := false } }
          { v' with engine := { v'.engine with shown := false } } :=
      fun moved => { moved with engine := { moved.engine with shown := rfl } }
    obtain ⟨answer, v, v', h, h', moved⟩ :=
      moved.call (.cancelNotification ⟨w.settings.notificationId⟩) nofun
    rw [h, h']
    cases answer with
    | ok => exact hidden moved
    | error => exact hidden (moved.log ..)
  · exact moved

theorem showNotification (moved : w.Moved r w') (content : NotificationContent)
    (state : PlaybackState) :
    (w.showNotification content state).Moved r (w'.showNotification content state) := by
  unfold World.showNotification World.notificationId
  rw [moved.settings]
  obtain ⟨answer, v, v', h, h', moved⟩ :=
    moved.call (.showNotification ⟨w.settings.notificationId⟩ content) nofun
  rw [h, h']
  cases answer with
  | ok =>
    dsimp only
    rw [moved.settings]
    refine log ?_ ..
    exact { moved with settings := rfl, engine := { moved.engine with shown := rfl } }
  | error => exact moved.log ..

theorem present (moved : w.Moved r w') (backgrounded : Bool) (state : PlaybackState)
    {item item' : Option Item} (items : Option.Rel (Item.Moved r.toFileMove) item item')
    (name : Option String) :
    (w.present backgrounded state item name).Moved r
      (w'.present backgrounded state item' name) := by
  unfold World.present
  cases items with
  | none => exact moved.hideNotification
  | some items =>
    dsimp only
    split
    · rw [moved.catalog, items.notificationContent]
      exact moved.showNotification ..
    · exact moved.hideNotification

theorem refreshNotification (moved : w.Moved r w') :
    w.refreshNotification.Moved r w'.refreshNotification := by
  have items : Option.Rel (Item.Moved r.toFileMove)
      (w.engine.mode.item?.or w.engine.cursor.currentItem?)
      (w'.engine.mode.item?.or w'.engine.cursor.currentItem?) := by
    have active := moved.engine.mode.item?
    generalize w.engine.mode.item? = item, w'.engine.mode.item? = item' at active
    cases active with
    | none => exact moved.engine.cursor.currentItem?
    | some items => exact .some items
  unfold World.refreshNotification
  rw [moved.engine.backgrounded, moved.engine.mode.reported, moved.engine.cursor.playlistName]
  exact moved.present _ _ items _

section Transitions

variable {item item' : Item} (items : item.Moved r.toFileMove item')

include items in
/-- Both report the refusal, and these reports name the file. -/
theorem denyFocus (moved : w.Moved r w') : (w.denyFocus item).Moved r (w'.denyFocus item') :=
  emit (moved.logged (.denial items.path)) _ _

theorem stop (moved : w.Moved r w') : w.stop.Moved r w'.stop :=
  (((moved.setMode .idle).setFocusPaused false).destroyOutput none).releaseFocus

theorem fail (moved : w.Moved r w') (failure : PlaybackError) :
    (w.fail item failure).Moved r (w'.fail item' failure) :=
  stop (emit (moved.log ..) _ _)

theorem reset (moved : w.Moved r w') : w.reset.Moved r w'.reset := by
  have given := ((moved.setMode .idle).setFocusPaused false).releaseAll
  exact (given.setCursor given.engine.cursor.reset).hideNotification

include items in
theorem start (moved : w.Moved r w') (autoplay : Bool) (seekTo : Option Duration) :
    (w.start item autoplay seekTo).Moved r (w'.start item' autoplay seekTo) := by
  have request : w'.engine.startRequest autoplay seekTo = w.engine.startRequest autoplay seekTo := by
    unfold Engine.startRequest
    rw [moved.engine.lastRequest, moved.engine.mode.reported]
  have begun : Moved r
      { w with engine := { w.engine with
          focusPaused := false
          lastRequest := (w.engine.startRequest autoplay seekTo).id } }
      { w' with engine := { w'.engine with
          focusPaused := false
          lastRequest := (w.engine.startRequest autoplay seekTo).id } } :=
    { moved with engine := { moved.engine with focusPaused := rfl, lastRequest := rfl } }
  have destroyed := (begun.log .engine .debug "Preparing output primitive"
    [("request_id", toString (w.engine.startRequest autoplay seekTo).id),
      ("file", baseName item.path.text), ("autoplay", toString autoplay)]).destroyOutput replacing
  unfold World.start
  rw [request, items.baseName]
  refine setMode ?_ (.preparing items _)
  refine { destroyed.unlogged (.started _) (.started _) rfl rfl with tasks := ?_ }
  exact List.rel_append destroyed.tasks (.cons ⟨rfl, items⟩ .nil)

include items in
theorem begin (moved : w.Moved r w') (session : SessionId) :
    (w.begin item session).Moved r (w'.begin item' session) := by
  unfold World.begin
  obtain ⟨held, v, v', h, h', moved⟩ := moved.acquireFocus
  rw [h, h']
  cases held with
  | false => exact ((moved.denyFocus items).destroyOutput none).setMode .idle
  | true =>
    obtain ⟨result, v, v', h, h', moved⟩ := moved.playSession session
    dsimp only
    rw [h, h']
    cases result with
    | ok => exact moved.setMode (.playing items session)
    | error e => exact moved.fail e

include items in
theorem resume (moved : w.Moved r w') (session : SessionId) :
    (w.resume item session).Moved r (w'.resume item' session) := by
  unfold World.resume
  obtain ⟨held, v, v', h, h', moved⟩ := moved.acquireFocus
  rw [h, h']
  cases held with
  | false => exact (moved.denyFocus items).setMode (.paused items session)
  | true =>
    obtain ⟨result, v, v', h, h', moved⟩ := moved.playSession session
    dsimp only
    rw [h, h']
    cases result with
    | ok => exact moved.setMode (.playing items session)
    | error e => exact moved.fail e

theorem pause (moved : w.Moved r w') : w.pause.Moved r w'.pause := by
  have modes := moved.engine.mode
  unfold World.pause
  generalize w.engine.mode = mode, w'.engine.mode = mode' at modes
  cases modes with
  | idle | paused => exact moved
  | preparing items request => exact moved.setMode (.preparing items request.hold)
  | playing items session =>
    obtain ⟨result, v, v', h, h', moved⟩ := moved.pauseSession session
    dsimp only
    rw [h, h']
    cases result with
    | ok => exact moved.setMode (.paused items session)
    | error e => exact moved.fail e

theorem moveCursor (moved : w.Moved r w') (index : Nat) :
    (w.moveCursor index).Moved r (w'.moveCursor index) := by
  unfold World.moveCursor
  rcases moved.engine.cursor.setIndex index with ⟨failure, h, h'⟩ | ⟨d, d', h, h', cursors⟩
  · rw [h, h']
    exact moved.log ..
  · rw [h, h']
    exact moved.setCursor cursors

theorem navigate (moved : w.Moved r w') (ahead : Bool) :
    (w.navigate ahead).Moved r (w'.navigate ahead) := by
  have onward : Option.Rel (Item.Moved r.toFileMove)
        (if ahead then w.engine.cursor.forward else w.engine.cursor.backward).1
        (if ahead then w'.engine.cursor.forward else w'.engine.cursor.backward).1 ∧
      (if ahead then w.engine.cursor.forward else w.engine.cursor.backward).2.Moved r.toFileMove
        (if ahead then w'.engine.cursor.forward else w'.engine.cursor.backward).2 := by
    cases ahead with
    | true => exact moved.engine.cursor.forward
    | false => exact moved.engine.cursor.backward
  unfold World.navigate
  generalize (if ahead then w.engine.cursor.forward else w.engine.cursor.backward) = onwards,
    (if ahead then w'.engine.cursor.forward else w'.engine.cursor.backward) = onwards' at onward
  obtain ⟨next, cursor⟩ := onwards
  obtain ⟨next', cursor'⟩ := onwards'
  obtain ⟨nexts, cursors⟩ := onward
  have there : (w.setCursor cursor).Moved r (w'.setCursor cursor') := moved.setCursor cursors
  dsimp only
  simp only [there.engine.mode.idle_iff]
  split
  · exact there
  · cases nexts with
    | none => exact reset (there.log ..)
    | some items => exact there.start items true none

end Transitions

section Commands

variable {item item' : Item} (items : item.Moved r.toFileMove item')
variable {p p' : Playlist} (playlists : p.Moved r.toFileMove p')

theorem play (moved : w.Moved r w') : w.play.Moved r w'.play := by
  have calm := moved.setFocusPaused false
  have modes := calm.engine.mode
  unfold World.play
  generalize w.setFocusPaused false = v, w'.setFocusPaused false = v' at calm modes
  dsimp only
  generalize v.engine.mode = mode, v'.engine.mode = mode' at modes
  cases modes with
  | idle =>
    have current := calm.engine.cursor.currentItem?
    dsimp only
    generalize v.engine.cursor.currentItem? = item, v'.engine.cursor.currentItem? = item' at current
    cases current with
    | none => exact calm.log ..
    | some items => exact calm.start items true none
  | preparing items request => exact calm.setMode (.preparing items request.resume)
  | playing => exact calm
  | paused items session => exact calm.resume items session

include items in
theorem playItem (moved : w.Moved r w') : (w.playItem item).Moved r (w'.playItem item') := by
  unfold World.playItem
  rw [moved.engine.cursor.indexOf? items, moved.catalog]
  split
  · exact (moved.moveCursor _).start items true none
  · exact (moved.setPlaylistOf (.single items _)).start items true none

theorem pauseByUser (moved : w.Moved r w') : w.pauseByUser.Moved r w'.pauseByUser :=
  (moved.setFocusPaused false).pause

theorem toggle (moved : w.Moved r w') : w.toggle.Moved r w'.toggle := by
  unfold World.toggle
  rw [moved.engine.mode.wantsPlayback]
  split
  · exact moved.pauseByUser
  · exact moved.play

theorem seekWithin (moved : w.Moved r w') (session : SessionId) (position : Duration) :
    (w.seekWithin session position).Moved r (w'.seekWithin session position) := by
  unfold World.seekWithin
  obtain ⟨result, v, v', h, h', moved⟩ := moved.seekSession session position
  rw [h, h']
  cases result with
  | ok => exact moved
  | error e => exact moved.log ..

theorem seek (moved : w.Moved r w') (position : Duration) :
    (w.seek position).Moved r (w'.seek position) := by
  have modes := moved.engine.mode
  unfold World.seek
  generalize w.engine.mode = mode, w'.engine.mode = mode' at modes
  cases modes with
  | idle =>
    have current := moved.engine.cursor.currentItem?
    dsimp only
    generalize w.engine.cursor.currentItem? = item, w'.engine.cursor.currentItem? = item' at current
    cases current with
    | none => exact moved.log ..
    | some items => exact moved.start items false (some position)
  | preparing items request =>
    exact moved.setMode (.preparing items { request with seekTo := some position })
  | playing items session | paused items session => exact moved.seekWithin session position

theorem setRepeatMode (moved : w.Moved r w') (mode : RepeatMode) :
    (w.setRepeatMode mode).Moved r (w'.setRepeatMode mode) :=
  setCursor (moved.log ..) (moved.engine.cursor.setRepeatMode mode)

theorem setShuffle (moved : w.Moved r w') (shuffled : Bool) :
    (w.setShuffle shuffled).Moved r (w'.setShuffle shuffled) := by
  obtain ⟨cursors, words⟩ := moved.engine.cursor.setShuffled shuffled w.entropy
  unfold World.setShuffle
  rw [moved.entropy]
  have set := (moved.log .engine .debug "Shuffle changed"
    [("shuffled", toString shuffled)]).setCursor cursors
  exact { set with entropy := words }

include items playlists in
theorem playInPlaylist (moved : w.Moved r w') :
    (w.playInPlaylist item p).Moved r (w'.playInPlaylist item' p') := by
  have modes := moved.engine.mode
  have chosen := Item.Moved.any_same moved.engine.mode.item? items
  unfold World.playInPlaylist
  rw [chosen, playlists.contains items, playlists.name, items.fileName]
  split
  · generalize w.engine.mode = mode, w'.engine.mode = mode' at modes
    cases modes with
    | idle | playing => exact moved
    | preparing items request => exact moved.setMode (.preparing items request.resume)
    | paused items session => exact moved.resume items session
  · split
    · have set := moved.setPlaylistOf playlists
      dsimp only
      rw [set.engine.cursor.indexOf? items]
      refine start items ?_ true none
      split
      · exact set.moveCursor _
      · exact set
    · exact moved.log ..

include playlists in
theorem setPlaylist (moved : w.Moved r w') : (w.setPlaylist p).Moved r (w'.setPlaylist p') := by
  have active := moved.engine.mode.item?
  have set := moved.setPlaylistOf playlists
  unfold World.setPlaylist
  generalize w.engine.mode.item? = item, w'.engine.mode.item? = item' at active
  cases active with
  | none => exact set
  | some items =>
    dsimp only
    rw [set.engine.cursor.indexOf? items]
    split
    · exact set.moveCursor _
    · exact stop (set.log ..)

theorem setIndex (moved : w.Moved r w') (index : Nat) :
    Agrees r (w.setIndex index) (w'.setIndex index) := by
  have previous := moved.engine.cursor.currentItem?
  unfold World.setIndex
  rcases moved.engine.cursor.setIndex index with ⟨failure, h, h'⟩ | ⟨d, d', h, h', cursors⟩
  · rw [h, h']
    exact ⟨_, _, _, rfl, rfl, moved⟩
  · have set := moved.setCursor cursors
    have current := cursors.currentItem?
    rw [h, h']
    dsimp only
    generalize d.currentItem? = item, d'.currentItem? = item' at current
    cases current with
    | none => exact ⟨_, _, _, rfl, rfl, set⟩
    | some items =>
      dsimp only
      rw [Item.Moved.any_same previous items, set.engine.mode.wantsPlayback]
      split
      · exact ⟨_, _, _, rfl, rfl, set⟩
      · simp only [set.engine.mode.idle_iff]
        split
        · exact ⟨_, _, _, rfl, rfl, set⟩
        · exact ⟨_, _, _, rfl, rfl, set.start items _ none⟩

theorem progress (moved : w.Moved r w') : Agrees r w.progress w'.progress := by
  unfold World.progress
  rw [moved.engine.mode.session?]
  split
  · exact moved.sessionPosition _
  · exact ⟨none, _, _, rfl, rfl, moved⟩

end Commands

section Callbacks

variable {item item' : Item} (items : item.Moved r.toFileMove item')

theorem seekPrepared (moved : w.Moved r w') (session : SessionId) (seekTo : Option Duration) :
    (w.seekPrepared session seekTo).Moved r (w'.seekPrepared session seekTo) := by
  cases seekTo with
  | none => exact moved
  | some position =>
    unfold World.seekPrepared
    obtain ⟨result, v, v', h, h', moved⟩ := moved.seekSession session position
    dsimp only
    rw [h, h']
    cases result with
    | ok => exact moved
    | error e => exact moved.log ..

include items in
/-- If the item cannot be prepared, both report that, and these reports name the file. -/
theorem settlePrepared (moved : w.Moved r w') (request : PrepareRequest)
    (result : Except HostError PreparedSession) :
    (w.settlePrepared request item result).Moved r (w'.settlePrepared request item' result) := by
  cases result with
  | error e => exact stop (emit (logged (moved.setMode .idle) (.unprepared items.path e.message)) _ _)
  | ok prepared =>
    have settled : ∀ {v v' : World σ L}, v.Moved r v' → Moved r
        (if request.autoplay then
          (v.seekPrepared prepared.session request.seekTo).begin item prepared.session
        else (v.seekPrepared prepared.session request.seekTo).setMode (.paused item prepared.session))
        (if request.autoplay then
          (v'.seekPrepared prepared.session request.seekTo).begin item' prepared.session
        else
          (v'.seekPrepared prepared.session request.seekTo).setMode
            (.paused item' prepared.session)) := by
      intro v v' moved
      have sought := moved.seekPrepared prepared.session request.seekTo
      split
      · exact sought.begin items prepared.session
      · exact sought.setMode (.paused items prepared.session)
    have adopted := (moved.setMode .idle).adopt prepared.session
    unfold World.settlePrepared
    refine settled ?_
    cases prepared.duration with
    | none => exact adopted
    | some d =>
      refine { adopted with catalog := ?_ }
      exact (items.recordDuration _ d).trans (congrArg (·.recordDuration item d) adopted.catalog)

theorem discardPrepared (moved : w.Moved r w') (id : Nat)
    (result : Except HostError PreparedSession) :
    (w.discardPrepared id result).Moved r (w'.discardPrepared id result) := by
  cases result with
  | ok prepared => exact discard (moved.log ..) prepared.session
  | error => exact moved.log ..

include items in
theorem onPrepared (moved : w.Moved r w') (id : Nat) (result : Except HostError PreparedSession) :
    (w.onPrepared id item result).Moved r (w'.onPrepared id item' result) := by
  have modes := moved.engine.mode
  unfold World.onPrepared
  generalize w.engine.mode = mode, w'.engine.mode = mode' at modes
  cases modes with
  | preparing _ request =>
    dsimp only
    split
    · exact moved.settlePrepared items request result
    · exact moved.discardPrepared id result
  | idle | playing | paused => exact moved.discardPrepared id result

theorem replay (moved : w.Moved r w') (session : SessionId) :
    Agrees r (w.replay session) (w'.replay session) := by
  unfold World.replay
  obtain ⟨result, v, v', h, h', moved⟩ := moved.seekSession session .zero
  rw [h, h']
  cases result with
  | ok => exact moved.playSession session
  | error e => exact ⟨_, _, _, rfl, rfl, moved⟩

include items in
theorem onCompleted (moved : w.Moved r w') (session : SessionId) :
    (w.onCompleted item session).Moved r (w'.onCompleted item' session) := by
  have noted := moved.log .engine .debug "Playback completed" [("file", item.fileName)]
  unfold World.onCompleted
  rw [items.fileName]
  dsimp only
  rw [noted.engine.cursor.repeatMode, noted.engine.cursor.canForward]
  split
  · obtain ⟨result, v, v', h, h', moved⟩ := noted.replay session
    rw [h, h']
    cases result with
    | ok => exact moved.setMode (.playing items session)
    | error e => exact start items (moved.log ..) true none
  · split
    · exact noted.navigate true
    · exact noted.reset

include items in
theorem onLiveOutput (moved : w.Moved r w') (session : SessionId) (event : OutputEvent) :
    (w.onLiveOutput item session event).Moved r (w'.onLiveOutput item' session event) := by
  cases event with
  | completed => exact moved.onCompleted items session
  | failed _ message => exact emit (moved.log ..) _ _

theorem ignoreOutput (moved : w.Moved r w') (event : OutputEvent) :
    (w.ignoreOutput event).Moved r (w'.ignoreOutput event) :=
  moved.log ..

theorem onOutput (moved : w.Moved r w') (event : OutputEvent) :
    (w.onOutput event).Moved r (w'.onOutput event) := by
  have modes := moved.engine.mode
  unfold World.onOutput
  generalize w.engine.mode = mode, w'.engine.mode = mode' at modes
  cases modes with
  | idle | preparing => exact moved.ignoreOutput event
  | playing items session | paused items session =>
    dsimp only
    split
    · exact moved.onLiveOutput items session event
    · exact moved.ignoreOutput event

theorem isPlaying (moved : w.Moved r w') : w'.isPlaying = w.isPlaying := by
  have modes := moved.engine.mode
  unfold World.isPlaying
  generalize w.engine.mode = mode, w'.engine.mode = mode' at modes
  cases modes <;> rfl

theorem onFocus (moved : w.Moved r w') (change : FocusChange) :
    (w.onFocus change).Moved r (w'.onFocus change) := by
  have noted := moved.log .engine .debug "Audio focus changed" [("change", change.name)]
  unfold World.onFocus
  dsimp only
  generalize w.log .engine .debug "Audio focus changed" [("change", change.name)] = v,
    w'.log .engine .debug "Audio focus changed" [("change", change.name)] = v' at noted
  have calm := noted.setFocusPaused false
  cases change with
  | lost =>
    dsimp only
    rw [calm.isPlaying]
    refine releaseFocus ?_
    split
    · exact calm.pause
    · exact calm
  | lostTransient =>
    dsimp only
    rw [noted.isPlaying]
    split
    · exact noted.pause.setFocusPaused true
    · exact noted
  | gained =>
    dsimp only
    rw [noted.engine.focusPaused]
    split
    · have modes := calm.engine.mode
      generalize (v.setFocusPaused false).engine.mode = mode,
        (v'.setFocusPaused false).engine.mode = mode' at modes
      cases modes with
      | idle | preparing | playing => exact calm
      | paused items session => exact calm.resume items session
    · exact noted

theorem onLifecycle (moved : w.Moved r w') (event : LifecycleEvent) :
    (w.onLifecycle event).Moved r (w'.onLifecycle event) := by
  cases event with
  | becameForeground =>
    refine hideNotification (releaseWakeLock ?_)
    exact { moved with engine := { moved.engine with backgrounded := rfl } }
  | becameBackground =>
    have away : Moved r { w with engine := { w.engine with backgrounded := true } }
        { w' with engine := { w'.engine with backgrounded := true } } :=
      { moved with engine := { moved.engine with backgrounded := rfl } }
    unfold World.onLifecycle
    dsimp only
    rw [moved.engine.mode.reported]
    split
    · exact away
    · obtain ⟨on, v, v', h, h', moved⟩ := away.screenOn
      rw [h, h']
      refine refreshNotification ?_
      cases on with
      | true => exact moved.acquireWakeLock
      | false => exact moved

theorem onTick (moved : w.Moved r w') : w.onTick.Moved r w'.onTick := by
  have modes := moved.engine.mode
  unfold World.onTick
  generalize w.engine.mode = mode, w'.engine.mode = mode' at modes
  cases modes with
  | idle | preparing | paused => exact moved
  | playing items session =>
    obtain ⟨position, v, v', h, h', moved⟩ := moved.sessionPosition session
    dsimp only
    rw [h, h']
    cases position with
    | none => exact moved
    | some position => exact moved.emit _ _

end Callbacks

theorem handle (moved : w.Moved r w') {message message' : Message}
    (messages : message.Moved r.toFileMove message') :
    (w.handle message).Moved r (w'.handle message') := by
  cases messages with
  | playItem items => exact moved.playItem items
  | playInPlaylist items playlists => exact moved.playInPlaylist items playlists
  | setPlaylist playlists => exact moved.setPlaylist playlists
  | prepared items request result => exact moved.onPrepared items request result
  | same nameless =>
    cases message with
    | playItem | playInPlaylist | setPlaylist | prepared => contradiction
    | play => exact moved.play
    | pause => exact moved.pauseByUser
    | toggle => exact moved.toggle
    | forward => exact moved.navigate true
    | backward => exact moved.navigate false
    | reset => exact moved.reset
    | seek position => exact moved.seek position
    | setRepeatMode mode => exact moved.setRepeatMode mode
    | setShuffle shuffled => exact moved.setShuffle shuffled
    | setIndex index =>
      obtain ⟨result, v, v', h, h', moved⟩ := moved.setIndex index
      unfold World.handle
      dsimp only
      rw [h, h']
      exact moved.reply _ _
    | snapshot => exact moved.reply _ _
    | progress =>
      obtain ⟨position, v, v', h, h', moved⟩ := moved.progress
      unfold World.handle
      dsimp only
      rw [h, h']
      exact moved.reply _ _
    | output event => exact moved.onOutput event
    | focus change => exact moved.onFocus change
    | lifecycle event => exact moved.onLifecycle event
    | tick => exact moved.onTick
    | shutdown => exact moved.reply _ _

theorem publishItem (moved : w.Moved r w') : w.publishItem.Moved r w'.publishItem := by
  have current := moved.engine.cursor.currentItem?
  have known := Item.sameOption_iff_of_moved current moved.engine.lastItem
  have file : w'.engine.cursor.currentItem?.map (fun item => ("file", baseName item.path.text)) =
      w.engine.cursor.currentItem?.map fun item => ("file", baseName item.path.text) := by
    generalize w.engine.cursor.currentItem? = item, w'.engine.cursor.currentItem? = item' at current
    cases current with
    | none => rfl
    | some items => exact congrArg (fun name => some ("file", name)) items.baseName
  unfold World.publishItem
  dsimp only
  simp only [known]
  rw [file, moved.engine.cursor.position]
  split
  · exact moved
  · refine emit (tell (log ?_ ..) (.trackChanged current)) _ _
    exact { moved with engine := { moved.engine with lastItem := current } }

theorem publishState (moved : w.Moved r w') (state : PlaybackState) :
    (w.publishState state).Moved r (w'.publishState state) :=
  emit (tell (moved.log ..) (.stateChanged state)) _ _

theorem publish (moved : w.Moved r w') : w.publish.Moved r w'.publish := by
  have known := Item.sameOption_iff_of_moved moved.engine.cursor.currentItem? moved.engine.lastItem
  have published := moved.publishItem
  unfold World.publish
  dsimp only
  simp only [known]
  rw [published.engine.mode.reported, published.engine.lastState]
  split
  · split
    · exact published.refreshNotification
    · exact published
  · refine publishState (refreshNotification ?_) _
    have noted : ∀ state, Moved r
        { w.publishItem with engine := { w.publishItem.engine with lastState := state } }
        { w'.publishItem with engine := { w'.publishItem.engine with lastState := state } } :=
      fun _ => { published with engine := { published.engine with lastState := rfl } }
    split
    · exact (noted _).releaseWakeLock
    · exact noted _

theorem turn (moved : w.Moved r w') {message message' : Message}
    (messages : message.Moved r.toFileMove message') :
    (w.turn message).Moved r (w'.turn message') := by
  unfold World.turn
  rw [messages.name]
  exact publish (handle (moved.log ..) messages)

theorem subscribeOutput (moved : w.Moved r w') : w.subscribeOutput.Moved r w'.subscribeOutput := by
  unfold World.subscribeOutput
  obtain ⟨answer, v, v', h, h', moved⟩ := moved.call .subscribeOutput nofun
  rw [h, h']
  cases answer with
  | ok => exact moved
  | error => exact moved.log ..

theorem subscribeFocus (moved : w.Moved r w') : w.subscribeFocus.Moved r w'.subscribeFocus := by
  unfold World.subscribeFocus
  obtain ⟨answer, v, v', h, h', moved⟩ := moved.call .subscribeFocus nofun
  rw [h, h']
  cases answer with
  | ok => exact moved
  | error => exact moved.log ..

theorem startUp (moved : w.Moved r w') : w.startUp.Moved r w'.startUp :=
  log (moved.subscribeOutput.subscribeFocus) ..

theorem teardown (moved : w.Moved r w') : w.teardown.Moved r w'.teardown :=
  log (moved.reset.publish) ..

end MediaPlayback.World.Moved
