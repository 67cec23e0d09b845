import MediaPlayback.Engine.Callback
import MediaPlayback.Engine.Command

/-! A turn of the engine: it handles one message and then publishes what changed. Listeners and
subscribers are told of a new current item first and of a new state after it, and of nothing that is
as it was. -/

namespace MediaPlayback.World

variable {σ L : Type} [Surroundings σ L]

/-- Does what a message asks for. -/
def handle (w : World σ L) : Message → World σ L
  | .play => w.play
  | .playItem item => w.playItem item
  | .pause => w.pauseByUser
  | .toggle => w.toggle
  | .forward => w.navigate true
  | .backward => w.navigate false
  | .reset => w.reset
  | .seek position => w.seek position
  | .setRepeatMode mode => w.setRepeatMode mode
  | .setShuffle shuffled => w.setShuffle shuffled
  | .playInPlaylist item playlist => w.playInPlaylist item playlist
  | .setPlaylist playlist => w.setPlaylist playlist
  | .setIndex index =>
    let (result, w) := w.setIndex index
    w.reply (.index result)
  | .snapshot => w.reply (.snapshot w.snapshot)
  | .progress =>
    let (position, w) := w.progress
    w.reply (.position position)
  | .prepared request item result => w.onPrepared request item result
  | .output event => w.onOutput event
  | .focus change => w.onFocus change
  | .lifecycle event => w.onLifecycle event
  | .tick => w.onTick
  | .shutdown => w.reply .stopped

/-- How diagnostics write an index that may be absent. -/
def indexText : Option Nat → String
  | none => "None"
  | some index => "Some(" ++ toString index ++ ")"

/-- Announces the current item if it is another one than was published last. -/
def publishItem (w : World σ L) : World σ L :=
  let item := w.engine.cursor.currentItem?
  if Item.SameOption item w.engine.lastItem then w
  else
    let index := w.engine.cursor.position
    let w := { w with engine := { w.engine with lastItem := item } }
    let w := w.log .engine .debug "Current item changed"
      ((item.map fun item => ("file", baseName item.path.text)).toList ++
        [("index", indexText index)])
    (w.tell (.trackChanged item)).emit (.trackChanged (item.map (·.path.text))
      (item.map w.catalog.displayTitle) (index.map UInt64.ofNat))

def publishState (w : World σ L) (state : PlaybackState) : World σ L :=
  let w := w.log .engine .info "Playback state changed" [("state", state.text)]
  (w.tell (.stateChanged state)).emit
    (.stateChanged state (w.engine.mode.item?.map (·.path.text)))

/-- Announces what changed since the last turn. -/
def publish (w : World σ L) : World σ L :=
  let itemChanged := ¬ Item.SameOption w.engine.cursor.currentItem? w.engine.lastItem
  let w := w.publishItem
  let state := w.engine.mode.reported
  if state = w.engine.lastState then
    if itemChanged then w.refreshNotification else w
  else
    let w := { w with engine := { w.engine with lastState := state } }
    let w := if state = .stopped then w.releaseWakeLock else w
    w.refreshNotification.publishState state

/-- Handles a message and publishes what changed. -/
def turn (w : World σ L) (m : Message) : World σ L :=
  ((w.log .engine .trace "Engine command" [("command", m.name)]).handle m).publish

/-- Handles messages one after the other. -/
def turns (w : World σ L) (ms : List Message) : World σ L := ms.foldl turn w

/-- Subscribes to the reports of the host's audio output. -/
def subscribeOutput (w : World σ L) : World σ L :=
  match w.call .subscribeOutput with
  | (.ok _, w) => w
  | (.error e, w) =>
    w.log .engine .warn "Adapter events unavailable; completion will not advance the playlist"
      [("error", e.message)]

/-- Subscribes to the host's changes of audio focus. -/
def subscribeFocus (w : World σ L) : World σ L :=
  match w.call .subscribeFocus with
  | (.ok _, w) => w
  | (.error e, w) => w.log .engine .warn "Audio focus changes unavailable" [("error", e.message)]

/-- Subscribes to all that the host reports, and begins. -/
def startUp (w : World σ L) : World σ L :=
  (w.subscribeOutput.subscribeFocus).log .engine .info "Playback engine started" []

/-- Gives everything back, publishes that, and ends. -/
def teardown (w : World σ L) : World σ L :=
  (w.reset.publish).log .engine .info "Playback engine stopped" []

end MediaPlayback.World
