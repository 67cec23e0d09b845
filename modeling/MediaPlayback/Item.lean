import MediaPlayback.Host.Attachment
import MediaPlayback.Host.Session

/-! Playable items and what becomes known about them. An item is identified by its file: two items
are the same track exactly if their paths name the same file. Its duration and its tags may become
known later and are then fixed; the catalog holds them, under the item's reference, so that all who
hold the item see them. -/

namespace MediaPlayback

/-- A downloaded media file. `ref` tells apart items that were made separately, even for one
file. -/
structure Item where
  ref : Nat
  path : Path
  transferId : Option String := none
  conversation : Option Conversation := none
deriving DecidableEq, Repr, Inhabited

namespace Item

/-- Whether two items stand for the same file. -/
def Same (a b : Item) : Prop := a.path.Same b.path

instance (a b : Item) : Decidable (a.Same b) := inferInstanceAs (Decidable (a.path.Same b.path))

theorem Same.refl (a : Item) : a.Same a := Path.Same.refl _

theorem Same.symm {a b : Item} (h : a.Same b) : b.Same a := Path.Same.symm h

theorem Same.trans {a b c : Item} (h : a.Same b) (h' : b.Same c) : a.Same c := Path.Same.trans h h'

/-- Whether two optional items are both absent or stand for the same file. -/
def SameOption : Option Item → Option Item → Prop
  | none, none => True
  | some a, some b => a.Same b
  | _, _ => False

instance : (a b : Option Item) → Decidable (SameOption a b)
  | none, none => .isTrue trivial
  | some a, some b => inferInstanceAs (Decidable (a.Same b))
  | none, some _ => .isFalse not_false
  | some _, none => .isFalse not_false

theorem SameOption.refl : (a : Option Item) → SameOption a a
  | none => trivial
  | some a => Same.refl a

theorem SameOption.symm : {a b : Option Item} → SameOption a b → SameOption b a
  | none, none, _ => trivial
  | some _, some _, h => Same.symm h

theorem SameOption.trans : {a b c : Option Item} →
    SameOption a b → SameOption b c → SameOption a c
  | none, none, none, _, _ => trivial
  | some _, some _, some _, h, h' => Same.trans h h'

/-- The file name, or the whole path of a file without a name. -/
def fileName (item : Item) : String := item.path.fileName

end Item

/-- Title and artist of a track, as far as they are known. -/
structure Tags where
  title : Option String := none
  artist : Option String := none
deriving DecidableEq, Repr, Inhabited

/-- What is known about items. Each fact is recorded once and keeps its first value. -/
structure Catalog where
  /-- The reference of the next item. -/
  next : Nat := 0
  durations : List (Nat × Duration) := []
  tags : List (Nat × Tags) := []
deriving Repr, Inhabited

namespace Catalog

/-- Makes an item of its own for a file. -/
def newItem (c : Catalog) (path : Path) (transferId : Option String)
    (conversation : Option Conversation) : Item × Catalog :=
  (⟨c.next, path, transferId, conversation⟩, { c with next := c.next + 1 })

def duration? (c : Catalog) (item : Item) : Option Duration := c.durations.lookup item.ref

def tags? (c : Catalog) (item : Item) : Option Tags := c.tags.lookup item.ref

/-- Records an item's duration unless it has one. -/
def recordDuration (c : Catalog) (item : Item) (d : Duration) : Catalog :=
  match c.duration? item with
  | some _ => c
  | none => { c with durations := (item.ref, d) :: c.durations }

/-- Records an item's tags unless it has some. -/
def recordTags (c : Catalog) (item : Item) (t : Tags) : Catalog :=
  match c.tags? item with
  | some _ => c
  | none => { c with tags := (item.ref, t) :: c.tags }

theorem duration?_recordDuration (c : Catalog) (item other : Item) (d : Duration) :
    (c.recordDuration item d).duration? other =
      if other.ref = item.ref then some ((c.duration? item).getD d) else c.duration? other := by
  unfold recordDuration
  cases h : c.duration? item with
  | some first =>
    by_cases same : other.ref = item.ref
    · simp only [duration?, same] at h ⊢
      simp [h]
    · simp [same]
  | none =>
    by_cases same : other.ref = item.ref
    · simp [duration?, same]
    · have differs : (other.ref == item.ref) = false := by simpa using same
      rw [if_neg same, duration?, List.lookup_cons, differs]
      rfl

def title? (c : Catalog) (item : Item) : Option String := (c.tags? item).bind Tags.title

def artist? (c : Catalog) (item : Item) : Option String := (c.tags? item).bind Tags.artist

/-- The title, or the file name of an item without one. -/
def displayTitle (c : Catalog) (item : Item) : String := (c.title? item).getD item.fileName

/-- What the host is told about an item when it prepares it. -/
def trackMetadata (c : Catalog) (item : Item) : TrackMetadata :=
  { trackId := item.transferId, title := c.title? item, artist := c.artist? item }

/-- What the host is asked for when it prepares an item. -/
def outputRequest (c : Catalog) (item : Item) : OutputRequest :=
  { path := item.path, metadata := c.trackMetadata item }

/-- Makes the item of a transfer, with the facts that the attachment store knows. Empty tags are
left open, so that they can still be recorded. -/
def ofAttachment (c : Catalog) (transferId : String) (a : Attachment)
    (conversation : Option Conversation) : Item × Catalog :=
  let (item, c) := c.newItem a.path (some transferId) conversation
  let c := if a.title.isSome || a.artist.isSome then c.recordTags item ⟨a.title, a.artist⟩ else c
  let c := match a.duration with
    | some d => c.recordDuration item d
    | none => c
  (item, c)

end Catalog
end MediaPlayback
