import MediaPlayback.Engine.Message
import MediaPlayback.Rehearsal.Shelf

/-! Orders to the engine in which items and playlists are described and not yet made. -/

namespace MediaPlayback

/-- An order that needs no answer. -/
inductive Order where
  | play
  | playItem (item : ItemRequest)
  | pause
  | toggle
  | forward
  | backward
  | reset
  | seek (position : Duration)
  | setRepeatMode (mode : RepeatMode)
  | setShuffle (shuffled : Bool)
  | playInPlaylist (item : ItemRequest) (playlist : PlaylistRequest)
  | setPlaylist (playlist : PlaylistRequest)
deriving Repr

/-- The message that an order stands for, once its items are there. -/
def Catalog.fulfil (c : Catalog) (shelf : Shelf) : Order → Message × Catalog
  | .play => (.play, c)
  | .playItem request =>
    let (item, c) := c.fetch shelf request
    (.playItem item, c)
  | .pause => (.pause, c)
  | .toggle => (.toggle, c)
  | .forward => (.forward, c)
  | .backward => (.backward, c)
  | .reset => (.reset, c)
  | .seek position => (.seek position, c)
  | .setRepeatMode mode => (.setRepeatMode mode, c)
  | .setShuffle shuffled => (.setShuffle shuffled, c)
  | .playInPlaylist request playlist =>
    let (item, c) := c.fetch shelf request
    let (playlist, c) := c.fetchPlaylist shelf playlist
    (.playInPlaylist item playlist, c)
  | .setPlaylist playlist =>
    let (playlist, c) := c.fetchPlaylist shelf playlist
    (.setPlaylist playlist, c)

end MediaPlayback
