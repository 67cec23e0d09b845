import MediaPlayback.Item

/-! Playlists: a fixed sequence of items with a name for people. -/

namespace MediaPlayback

inductive PlaylistKind where
  | single
  | conversation (partner : Conversation)
  | collection (name : String)
deriving DecidableEq, Repr

/-- A sequence of items, which never changes, and its name. -/
structure Playlist where
  name : String
  kind : PlaylistKind
  items : List Item
deriving DecidableEq, Repr

namespace Playlist

/-- The playlist of one item, named after it. -/
def single (c : Catalog) (item : Item) : Playlist := ⟨c.displayTitle item, .single, [item]⟩

def ofConversation (partner : Conversation) (items : List Item) : Playlist :=
  ⟨partner.label, .conversation partner, items⟩

def collection (name : String) (items : List Item) : Playlist := ⟨name, .collection name, items⟩

def length (p : Playlist) : Nat := p.items.length

/-- The first place of a track in the playlist. -/
def position? (p : Playlist) (item : Item) : Option Nat := p.items.findIdx? (·.Same item)

def contains (p : Playlist) (item : Item) : Bool := (p.position? item).isSome

end Playlist
end MediaPlayback
