import MediaPlayback.Engine.World

/-! The playback notification. It is shown while the app is in the background and something is
playing or paused, and taken away otherwise. -/

namespace MediaPlayback

/-- What the notification says about an item: the artist, or else the playlist, under the title. -/
def Catalog.notificationContent (c : Catalog) (item : Item) (playlistName : Option String)
    (isPlaying : Bool) : NotificationContent where
  title := c.displayTitle item
  subtitle := (c.artist? item).or playlistName
  isPlaying := isPlaying
  tapTarget :=
    match item.conversation with
    | some conversation => .conversation conversation
    | none => .player

namespace World

variable {σ L : Type} [Surroundings σ L]

def notificationId (w : World σ L) : NotificationId := ⟨w.settings.notificationId⟩

/-- Takes the notification away if it is shown. -/
def hideNotification (w : World σ L) : World σ L :=
  if w.engine.shown then
    let w := match w.call (.cancelNotification w.notificationId) with
      | (.ok _, w) => w
      | (.error e, w) =>
        w.log .notification .warn "Failed to cancel playback notification" [("error", e.message)]
    { w with engine := { w.engine with shown := false } }
  else w

def showNotification (w : World σ L) (content : NotificationContent) (state : PlaybackState) :
    World σ L :=
  match w.call (.showNotification w.notificationId content) with
  | (.ok _, w) =>
    { w with engine := { w.engine with shown := true } }.log .notification .debug
      "Playback notification shown"
      [("notification_id", toString w.settings.notificationId.toNat), ("state", state.name)]
  | (.error e, w) =>
    w.log .notification .warn "Failed to show playback notification" [("error", e.message)]

/-- Brings the notification in line with what is going on. -/
def present (w : World σ L) (backgrounded : Bool) (state : PlaybackState) (item : Option Item)
    (playlistName : Option String) : World σ L :=
  match item with
  | some item =>
    if backgrounded && state != .stopped then
      w.showNotification (w.catalog.notificationContent item playlistName (state == .playing)) state
    else w.hideNotification
  | none => w.hideNotification

end World
end MediaPlayback
