import MediaPlayback.Engine.Transition

/-! What the engine does with the messages of its users. -/

namespace MediaPlayback.World

variable {σ L : Type} [Surroundings σ L]

/-- Resumes a paused item, or starts the current one; an item that is being prepared will play. -/
def play (w : World σ L) : World σ L :=
  let w := w.setFocusPaused false
  match w.engine.mode with
  | .paused item session => w.resume item session
  | .preparing item request => w.setMode (.preparing item request.resume)
  | .idle =>
    match w.engine.cursor.currentItem? with
    | some item => w.start item true none
    | none => w.log .engine .debug "Nothing to play" []
  | .playing .. => w

/-- Plays an item of the playlist, or one that becomes the whole playlist. -/
def playItem (w : World σ L) (item : Item) : World σ L :=
  let w := match w.engine.cursor.indexOf? item with
    | some index => w.moveCursor index
    | none => w.setPlaylistOf (.single w.catalog item)
  w.start item true none

def pauseByUser (w : World σ L) : World σ L := (w.setFocusPaused false).pause

def toggle (w : World σ L) : World σ L :=
  if w.engine.mode.wantsPlayback then w.pauseByUser else w.play

def seekWithin (w : World σ L) (session : SessionId) (position : Duration) : World σ L :=
  match w.seekSession session position with
  | (.ok _, w) => w
  | (.error e, w) => w.log .engine .warn "Seek failed" [("error", e.message)]

/-- Moves within the active item. With nothing active the current item is prepared and paused at the
position. -/
def seek (w : World σ L) (position : Duration) : World σ L :=
  match w.engine.mode with
  | .playing _ session | .paused _ session => w.seekWithin session position
  | .preparing item request =>
    w.setMode (.preparing item { request with seekTo := some position })
  | .idle =>
    match w.engine.cursor.currentItem? with
    | some item => w.start item false (some position)
    | none => w.log .engine .debug "Seek ignored; nothing to play" []

def setRepeatMode (w : World σ L) (mode : RepeatMode) : World σ L :=
  (w.log .engine .debug "Repeat mode changed" [("mode", mode.name)]).setCursor
    (w.engine.cursor.setRepeatMode mode)

def setShuffle (w : World σ L) (shuffled : Bool) : World σ L :=
  let (cursor, entropy) := w.engine.cursor.setShuffled shuffled w.entropy
  { (w.log .engine .debug "Shuffle changed" [("shuffled", toString shuffled)]).setCursor cursor with
    entropy }

/-- Plays an item of a playlist. The active item is only resumed. -/
def playInPlaylist (w : World σ L) (item : Item) (playlist : Playlist) : World σ L :=
  if w.engine.mode.item?.any (·.Same item) then
    match w.engine.mode with
    | .paused item session => w.resume item session
    | .preparing item request => w.setMode (.preparing item request.resume)
    | _ => w
  else if playlist.contains item then
    let w := w.setPlaylistOf playlist
    let w := match w.engine.cursor.indexOf? item with
      | some index => w.moveCursor index
      | none => w
    w.start item true none
  else
    w.log .engine .warn "Item is not part of the playlist; ignoring"
      [("playlist", playlist.name), ("file", item.fileName)]

/-- Replaces the playlist. An active item goes on if the playlist holds it. -/
def setPlaylist (w : World σ L) (playlist : Playlist) : World σ L :=
  let active := w.engine.mode.item?
  let w := w.setPlaylistOf playlist
  match active with
  | none => w
  | some item =>
    match w.engine.cursor.indexOf? item with
    | some index => w.moveCursor index
    | none => (w.log .engine .debug "Active item left the playlist; stopping" []).stop

/-- Moves the cursor. Playback follows if something is active and the item is another one. -/
def setIndex (w : World σ L) (index : Nat) : Except PlaybackError Unit × World σ L :=
  let previous := w.engine.cursor.currentItem?
  match w.engine.cursor.setIndex index with
  | .error e => (.error e, w)
  | .ok cursor =>
    let w := w.setCursor cursor
    match cursor.currentItem? with
    | none => (.ok (), w)
    | some item =>
      if previous.any (·.Same item) then (.ok (), w)
      else if w.engine.mode = .idle then (.ok (), w)
      else (.ok (), w.start item w.engine.mode.wantsPlayback none)

/-- What the engine looks like now. -/
def snapshot (w : World σ L) : Snapshot :=
  let cursor := w.engine.cursor
  let item := cursor.currentItem?
  { state := w.engine.mode.reported
    item
    index := cursor.position
    duration := item.bind w.catalog.duration?
    repeatMode := cursor.repeatMode
    shuffled := cursor.shuffled
    length := cursor.length
    playlistName := cursor.playlist.map (·.name) }

/-- The position of the live session. -/
def progress (w : World σ L) : Option Duration × World σ L :=
  match w.engine.mode.session? with
  | some session => w.sessionPosition session
  | none => (none, w)

end MediaPlayback.World
