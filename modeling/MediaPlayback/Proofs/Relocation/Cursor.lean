import Mathlib.Data.List.Forall2
import MediaPlayback.Engine.Presenter
import MediaPlayback.Proofs.Relocation.Files

/-! Items, playlists and cursors whose files are moved to other directories. What depends on file
names and on which files are the same comes out alike. -/

namespace MediaPlayback

/-- The first place at which something holds is the same in lists whose entries correspond. -/
theorem findIdx?_of_forall₂ {α β : Type} {R : α → β → Prop} {p : α → Bool} {q : β → Bool}
    {xs : List α} {ys : List β} (related : List.Forall₂ R xs ys)
    (agree : ∀ x y, R x y → q y = p x) : ys.findIdx? q = xs.findIdx? p := by
  induction related with
  | nil => rfl
  | cons head _ ih => rw [List.findIdx?_cons, List.findIdx?_cons, agree _ _ head, ih]

theorem getElem?_of_forall₂ {α β : Type} {R : α → β → Prop} {xs : List α} {ys : List β}
    (related : List.Forall₂ R xs ys) (i : Nat) : Option.Rel R xs[i]? ys[i]? := by
  induction related generalizing i with
  | nil => exact .none
  | cons head _ ih =>
    cases i with
    | zero => exact .some head
    | succ i => exact ih i

variable {m : FileMove}

namespace Item

/-- The same item, with its file in the place that it was moved to. -/
structure Moved (m : FileMove) (a a' : Item) : Prop where
  path : m.moves a.path a'.path
  ref : a'.ref = a.ref
  transferId : a'.transferId = a.transferId
  conversation : a'.conversation = a.conversation

variable {a a' b b' : Item}

theorem Moved.same_iff (a_moved : a.Moved m a') (b_moved : b.Moved m b') :
    a'.Same b' ↔ a.Same b :=
  m.same_iff a_moved.path b_moved.path

theorem Moved.fileName (moved : a.Moved m a') : a'.fileName = a.fileName := m.fileName moved.path

theorem Moved.baseName (moved : a.Moved m a') : baseName a'.path.text = baseName a.path.text :=
  m.baseName moved.path

theorem Moved.duration? (moved : a.Moved m a') (c : Catalog) : c.duration? a' = c.duration? a :=
  congrArg (List.lookup · c.durations) moved.ref

theorem Moved.tags? (moved : a.Moved m a') (c : Catalog) : c.tags? a' = c.tags? a :=
  congrArg (List.lookup · c.tags) moved.ref

theorem Moved.displayTitle (moved : a.Moved m a') (c : Catalog) :
    c.displayTitle a' = c.displayTitle a := by
  unfold Catalog.displayTitle Catalog.title?
  rw [moved.tags?, moved.fileName]

theorem Moved.notificationContent (moved : a.Moved m a') (c : Catalog) (name : Option String)
    (isPlaying : Bool) :
    c.notificationContent a' name isPlaying = c.notificationContent a name isPlaying := by
  unfold Catalog.notificationContent Catalog.artist?
  rw [moved.tags?, moved.displayTitle, moved.conversation]

theorem Moved.recordDuration (moved : a.Moved m a') (c : Catalog) (d : Duration) :
    c.recordDuration a' d = c.recordDuration a d := by
  unfold Catalog.recordDuration
  rw [moved.duration?, moved.ref]

theorem Moved.recordTags (moved : a.Moved m a') (c : Catalog) (t : Tags) :
    c.recordTags a' t = c.recordTags a t := by
  unfold Catalog.recordTags
  rw [moved.tags?, moved.ref]

/-- Whether an optional item is the same file as another item. -/
theorem Moved.any_same {o o' : Option Item} (others : Option.Rel (Moved m) o o')
    (moved : a.Moved m a') : o'.any (·.Same a') = o.any (·.Same a) := by
  cases others with
  | none => rfl
  | some other => exact decide_eq_decide.mpr (other.same_iff moved)

theorem sameOption_iff_of_moved {o o' p p' : Option Item} (first : Option.Rel (Moved m) o o')
    (second : Option.Rel (Moved m) p p') : SameOption o' p' ↔ SameOption o p := by
  cases first with
  | none => cases second <;> exact Iff.rfl
  | some first =>
    cases second with
    | none => exact Iff.rfl
    | some second => exact first.same_iff second

end Item

/-- The same attachment, with its file in the place that it was moved to. -/
structure Attachment.Moved (m : FileMove) (a a' : Attachment) : Prop where
  path : m.moves a.path a'.path
  title : a'.title = a.title
  artist : a'.artist = a.artist
  duration : a'.duration = a.duration

theorem Attachment.Moved.item {a a' : Attachment} (moved : a.Moved m a') (c : Catalog)
    (transferId : String) (conversation : Option Conversation) :
    (c.ofAttachment transferId a conversation).1.Moved m
        (c.ofAttachment transferId a' conversation).1 ∧
      (c.ofAttachment transferId a' conversation).2 =
        (c.ofAttachment transferId a conversation).2 := by
  have items : Item.Moved m ⟨c.next, a.path, some transferId, conversation⟩
      ⟨c.next, a'.path, some transferId, conversation⟩ := ⟨moved.path, rfl, rfl, rfl⟩
  unfold Catalog.ofAttachment Catalog.newItem
  dsimp only
  rw [moved.title, moved.artist, moved.duration, items.recordTags]
  refine ⟨items, ?_⟩
  cases a.duration with
  | none => rfl
  | some d => exact items.recordDuration _ d

namespace Playlist

/-- The same playlist, with its files in the places that they were moved to. -/
structure Moved (m : FileMove) (p p' : Playlist) : Prop where
  name : p'.name = p.name
  kind : p'.kind = p.kind
  items : List.Forall₂ (Item.Moved m) p.items p'.items

variable {p p' : Playlist} {item item' : Item}

theorem Moved.length (moved : p.Moved m p') : p'.length = p.length := moved.items.length_eq.symm

theorem Moved.contains (moved : p.Moved m p') (items : item.Moved m item') :
    p'.contains item' = p.contains item :=
  congrArg Option.isSome (findIdx?_of_forall₂ moved.items
    fun _ _ others => decide_eq_decide.mpr (others.same_iff items))

theorem Moved.single (moved : item.Moved m item') (c : Catalog) :
    (Playlist.single c item).Moved m (.single c item') :=
  ⟨moved.displayTitle c, rfl, .cons moved .nil⟩

end Playlist

namespace Cursor

/-- The same cursor, with the files of its playlist in the places that they were moved to. -/
structure Moved (m : FileMove) (c c' : Cursor) : Prop where
  playlist : Option.Rel (Playlist.Moved m) c.playlist c'.playlist
  order : c'.order = c.order
  position : c'.position = c.position
  shuffled : c'.shuffled = c.shuffled
  repeatMode : c'.repeatMode = c.repeatMode

variable {c c' : Cursor} {item item' : Item}

theorem Moved.length (moved : c.Moved m c') : c'.length = c.length :=
  congrArg List.length moved.order

theorem Moved.itemAt? (moved : c.Moved m c') (place : Nat) :
    Option.Rel (Item.Moved m) (c.itemAt? place) (c'.itemAt? place) := by
  have playlists := moved.playlist
  unfold Cursor.itemAt?
  generalize c.playlist = playlist, c'.playlist = playlist' at playlists
  cases playlists with
  | none => exact .none
  | some playlists => exact getElem?_of_forall₂ playlists.items place

theorem Moved.currentPlace? (moved : c.Moved m c') : c'.currentPlace? = c.currentPlace? := by
  unfold Cursor.currentPlace?
  rw [moved.position, moved.order]

theorem Moved.currentItem? (moved : c.Moved m c') :
    Option.Rel (Item.Moved m) c.currentItem? c'.currentItem? := by
  unfold Cursor.currentItem?
  rw [moved.currentPlace?]
  cases c.currentPlace? with
  | none => exact .none
  | some place => exact moved.itemAt? place

theorem Moved.indexOf? (moved : c.Moved m c') (items : item.Moved m item') :
    c'.indexOf? item' = c.indexOf? item := by
  unfold Cursor.indexOf?
  rw [moved.order]
  congr 1
  funext place
  exact Item.Moved.any_same (moved.itemAt? place) items

theorem Moved.nextIndex? (moved : c.Moved m c') : c'.nextIndex? = c.nextIndex? := by
  unfold Cursor.nextIndex?
  rw [moved.position, moved.repeatMode, moved.length]

theorem Moved.previousIndex? (moved : c.Moved m c') : c'.previousIndex? = c.previousIndex? := by
  unfold Cursor.previousIndex?
  rw [moved.position, moved.repeatMode, moved.length]

theorem Moved.canForward (moved : c.Moved m c') : c'.canForward = c.canForward :=
  congrArg Option.isSome moved.nextIndex?

theorem Moved.playlistName (moved : c.Moved m c') :
    c'.playlist.map (·.name) = c.playlist.map (·.name) := by
  have playlists := moved.playlist
  generalize c.playlist = playlist, c'.playlist = playlist' at playlists
  cases playlists with
  | none => rfl
  | some playlists => exact congrArg some playlists.name

theorem Moved.moveTo (moved : c.Moved m c') (index : Option Nat) :
    Option.Rel (Item.Moved m) (c.moveTo index).1 (c'.moveTo index).1 ∧
      (c.moveTo index).2.Moved m (c'.moveTo index).2 := by
  cases index with
  | none => exact ⟨.none, moved⟩
  | some index =>
    have there : Cursor.Moved m { c with position := some index } { c' with position := some index } :=
      { moved with position := rfl }
    exact ⟨there.currentItem?, there⟩

theorem Moved.forward (moved : c.Moved m c') :
    Option.Rel (Item.Moved m) c.forward.1 c'.forward.1 ∧ c.forward.2.Moved m c'.forward.2 := by
  unfold Cursor.forward
  rw [moved.nextIndex?]
  exact moved.moveTo _

theorem Moved.backward (moved : c.Moved m c') :
    Option.Rel (Item.Moved m) c.backward.1 c'.backward.1 ∧ c.backward.2.Moved m c'.backward.2 := by
  unfold Cursor.backward
  rw [moved.previousIndex?]
  exact moved.moveTo _

/-- Moved to the same index, two cursors correspond, or both refuse it. -/
theorem Moved.setIndex (moved : c.Moved m c') (index : Nat) :
    (∃ failure, c.setIndex index = .error failure ∧ c'.setIndex index = .error failure) ∨
    ∃ d d', c.setIndex index = .ok d ∧ c'.setIndex index = .ok d' ∧ d.Moved m d' := by
  unfold Cursor.setIndex
  rw [moved.length]
  split
  · exact .inr ⟨_, _, rfl, rfl, { moved with position := rfl }⟩
  · exact .inl ⟨_, rfl, rfl⟩

theorem Moved.reset (moved : c.Moved m c') : c.reset.Moved m c'.reset :=
  { moved with playlist := .none, order := rfl, position := rfl }

theorem Moved.setRepeatMode (moved : c.Moved m c') (mode : RepeatMode) :
    (c.setRepeatMode mode).Moved m (c'.setRepeatMode mode) :=
  { moved with repeatMode := rfl }

theorem Moved.setPlaylist (moved : c.Moved m c') {p p' : Playlist} (playlists : p.Moved m p')
    (words : Entropy) :
    (c.setPlaylist p words).1.Moved m (c'.setPlaylist p' words).1 ∧
      (c'.setPlaylist p' words).2 = (c.setPlaylist p words).2 := by
  unfold Cursor.setPlaylist
  rw [playlists.length, moved.shuffled]
  exact ⟨⟨.some playlists, rfl, rfl, rfl, moved.repeatMode⟩, rfl⟩

theorem Moved.setShuffled (moved : c.Moved m c') (shuffled : Bool) (words : Entropy) :
    (c.setShuffled shuffled words).1.Moved m (c'.setShuffled shuffled words).1 ∧
      (c'.setShuffled shuffled words).2 = (c.setShuffled shuffled words).2 := by
  unfold Cursor.setShuffled
  rw [moved.shuffled, moved.currentPlace?, moved.length]
  split
  · exact ⟨moved, rfl⟩
  · split
    · exact ⟨{ moved with order := rfl, position := rfl, shuffled := rfl }, rfl⟩
    · exact ⟨{ moved with order := rfl, position := rfl, shuffled := rfl }, rfl⟩

end Cursor
end MediaPlayback
