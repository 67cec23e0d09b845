import MediaPlayback.Playlist

/-! Descriptions of items and playlists, and the items that they stand for. A shelf holds items under
names; a description of an item makes a new one each time. -/

namespace MediaPlayback

structure ItemSpec where
  path : Path
  transferId : Option String := none
  conversation : Option Conversation := none
  tags : Option Tags := none
  duration : Option Duration := none
deriving Repr, Inhabited

inductive ItemRequest where
  /-- The item that is on the shelf under this name, or else a new one for the file so called. -/
  | shelved (name : String)
  | fresh (spec : ItemSpec)
  /-- A new item for an attachment. -/
  | attached (transferId : String) (attachment : Attachment) (conversation : Option Conversation)
deriving Repr

inductive PlaylistRequest where
  | single (item : ItemRequest)
  | conversation (partner : Conversation) (items : List ItemRequest)
  | collection (name : String) (items : List ItemRequest)
deriving Repr

abbrev Shelf := List (String × Item)

namespace Catalog

/-- Makes a new item as described. -/
def make (c : Catalog) (spec : ItemSpec) : Item × Catalog :=
  let (item, c) := c.newItem spec.path spec.transferId spec.conversation
  let c := match spec.tags with
    | some tags => c.recordTags item tags
    | none => c
  let c := match spec.duration with
    | some d => c.recordDuration item d
    | none => c
  (item, c)

def fetch (c : Catalog) (shelf : Shelf) : ItemRequest → Item × Catalog
  | .shelved name =>
    match shelf.lookup name with
    | some item => (item, c)
    | none => c.make { path := ⟨name⟩ }
  | .fresh spec => c.make spec
  | .attached transferId attachment conversation => c.ofAttachment transferId attachment conversation

/-- The items that are asked for, in order. -/
def fetchAll (c : Catalog) (shelf : Shelf) : List ItemRequest → List Item × Catalog
  | [] => ([], c)
  | request :: requests =>
    let (item, c) := c.fetch shelf request
    let (items, c) := c.fetchAll shelf requests
    (item :: items, c)

def fetchPlaylist (c : Catalog) (shelf : Shelf) : PlaylistRequest → Playlist × Catalog
  | .single request =>
    let (item, c) := c.fetch shelf request
    (.single c item, c)
  | .conversation partner requests =>
    let (items, c) := c.fetchAll shelf requests
    (.ofConversation partner items, c)
  | .collection name requests =>
    let (items, c) := c.fetchAll shelf requests
    (.collection name items, c)

/-- Puts new items on the shelf. -/
def stock (c : Catalog) (shelf : Shelf) : List (String × ItemRequest) → Shelf × Catalog
  | [] => (shelf, c)
  | (name, request) :: rest =>
    let (item, c) := c.fetch [] request
    c.stock ((name, item) :: shelf) rest

end Catalog
end MediaPlayback
