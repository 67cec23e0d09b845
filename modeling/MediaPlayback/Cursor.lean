import MediaPlayback.Error
import MediaPlayback.Playlist
import MediaPlayback.Shuffle

/-! A position in a playlist under a shuffle and a repeat setting. The cursor walks the effective
order, a list of places in the playlist: the playlist's own order without shuffle, and with it a
random one that was drawn when shuffle was switched on or the playlist was set. Switching shuffle
keeps the current entry. All indices count in the effective order. -/

namespace MediaPlayback

/-- What follows the last item, and what comes before the first. -/
inductive RepeatMode where
  /-- Nothing: playback ends at either end. -/
  | off
  /-- The other end of the playlist. -/
  | all
  /-- Every item is followed by itself. -/
  | item
deriving DecidableEq, Repr, Inhabited

/-- The word that is shown for a repeat mode. -/
def RepeatMode.name : RepeatMode → String
  | .off => "None"
  | .all => "All"
  | .item => "Item"

/-- A position in a playlist. -/
structure Cursor where
  playlist : Option Playlist := none
  /-- The effective order: places in the playlist. -/
  order : List Nat := []
  /-- The current index in the effective order. -/
  position : Option Nat := none
  shuffled : Bool := false
  repeatMode : RepeatMode := .off
deriving DecidableEq, Repr, Inhabited

namespace Cursor

def length (c : Cursor) : Nat := c.order.length

def isEmpty (c : Cursor) : Bool := c.order.isEmpty

def itemAt? (c : Cursor) (place : Nat) : Option Item :=
  c.playlist.bind fun playlist => playlist.items[place]?

/-- The place in the playlist of the current entry. -/
def currentPlace? (c : Cursor) : Option Nat := c.position.bind fun index => c.order[index]?

def currentItem? (c : Cursor) : Option Item := c.currentPlace?.bind c.itemAt?

def items (c : Cursor) : List Item := c.order.filterMap c.itemAt?

/-- The first index of a track. -/
def indexOf? (c : Cursor) (item : Item) : Option Nat :=
  c.order.findIdx? fun place => (c.itemAt? place).any (·.Same item)

/-- Takes a new playlist and moves to its first item. Shuffle and repeat settings stay. -/
def setPlaylist (c : Cursor) (playlist : Playlist) (words : Entropy) : Cursor × Entropy :=
  let places := List.range playlist.length
  let (order, words) := if c.shuffled then shuffle places words else (places, words)
  let position := if playlist.length = 0 then none else some 0
  ({ c with playlist := some playlist, order, position }, words)

/-- Moves to an index of the effective order. -/
def setIndex (c : Cursor) (index : Nat) : Except PlaybackError Cursor :=
  if index < c.length then .ok { c with position := some index }
  else .error (.indexOutOfRange index c.length)

/-- The index that `forward` moves to. -/
def nextIndex? (c : Cursor) : Option Nat :=
  c.position.bind fun p =>
    match c.repeatMode with
    | .item => some p
    | .all => some ((p + 1) % c.length)
    | .off => if p + 1 < c.length then some (p + 1) else none

/-- The index that `backward` moves to. -/
def previousIndex? (c : Cursor) : Option Nat :=
  c.position.bind fun p =>
    match c.repeatMode with
    | .item => some p
    | .all => some (if p = 0 then c.length - 1 else p - 1)
    | .off => if p = 0 then none else some (p - 1)

/-- Moves to an index, if there is one, and gives the item there. -/
def moveTo (c : Cursor) : Option Nat → Option Item × Cursor
  | none => (none, c)
  | some index =>
    let c := { c with position := some index }
    (c.currentItem?, c)

def forward (c : Cursor) : Option Item × Cursor := c.moveTo c.nextIndex?

def backward (c : Cursor) : Option Item × Cursor := c.moveTo c.previousIndex?

def canForward (c : Cursor) : Bool := c.nextIndex?.isSome

def canBackward (c : Cursor) : Bool := c.previousIndex?.isSome

/-- Drops the playlist. Shuffle and repeat settings stay. -/
def reset (c : Cursor) : Cursor := { c with playlist := none, order := [], position := none }

def setRepeatMode (c : Cursor) (mode : RepeatMode) : Cursor := { c with repeatMode := mode }

/-- Switches shuffle. The current entry stays current: it comes first in a new random order, and it
is found again in the playlist's own order. -/
def setShuffled (c : Cursor) (shuffled : Bool) (words : Entropy) : Cursor × Entropy :=
  if c.shuffled = shuffled then (c, words)
  else
    let current := c.currentPlace?
    let places := List.range c.length
    if shuffled then
      let (rest, words) := shuffle (places.filter (some · ≠ current)) words
      ({ c with
          shuffled, order := current.toList ++ rest, position := current.map fun _ => 0 }, words)
    else ({ c with shuffled, order := places, position := current }, words)

end Cursor
end MediaPlayback
