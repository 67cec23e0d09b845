import MediaPlayback.Cursor

/-! What holds of every cursor: its order holds every place of the playlist once, so that no index
leads astray, and there is a current item unless the playlist is empty. Switching shuffle never
changes the current entry. -/

namespace MediaPlayback

theorem Shuffle.exchange_perm {α : Type} (i : Nat) (xs : Array α) (words : Entropy) :
    (exchange i xs words).1.toList.Perm xs.toList := by
  induction i generalizing xs words with
  | zero => exact .refl _
  | succ i ih =>
    unfold exchange
    refine (ih _ _).trans ?_
    unfold Array.swapIfInBounds
    split
    · split
      · exact (Array.swap_perm _ _).toList
      · exact .refl _
    · exact .refl _

theorem shuffle_perm {α : Type} (xs : List α) (words : Entropy) : (shuffle xs words).1.Perm xs :=
  Shuffle.exchange_perm _ _ words

namespace Cursor

/-- The places of the playlist in the playlist's own order. -/
def places (c : Cursor) : List Nat := List.range (c.playlist.elim 0 Playlist.length)

/-- The order holds every place once, without shuffle in the playlist's own order, and an index of
it is current unless there is none. -/
structure Lawful (c : Cursor) : Prop where
  order : c.order.Perm c.places
  plain : c.shuffled = false → c.order = c.places
  inside : ∀ index, c.position = some index → index < c.length
  placed : c.position = none → c.order = []

variable {c : Cursor} {item : Item} {index : Nat}

theorem Lawful.range_length (lawful : c.Lawful) : List.range c.length = c.places := by
  have same := lawful.order.length_eq
  simp only [places, List.length_range] at same
  rw [length, same, places]

/-- Without a playlist there are no entries. -/
theorem Lawful.order_of_unset (lawful : c.Lawful) (unset : c.playlist = none) : c.order = [] := by
  have order := lawful.order
  rw [places, unset] at order
  exact order.eq_nil

theorem Lawful.position_eq_none_iff (lawful : c.Lawful) : c.position = none ↔ c.order = [] := by
  refine ⟨lawful.placed, fun empty => ?_⟩
  cases position : c.position with
  | none => rfl
  | some index =>
    have inside := lawful.inside index position
    simp [length, empty] at inside

theorem Lawful.exists_itemAt (lawful : c.Lawful) {place : Nat} (mem : place ∈ c.order) :
    ∃ item, c.itemAt? place = some item := by
  have bound := List.mem_range.mp (lawful.order.mem_iff.mp mem)
  cases playlist : c.playlist with
  | none => simp [playlist] at bound
  | some p =>
    have bound : place < p.items.length := by simpa [playlist, Playlist.length] using bound
    exact ⟨p.items[place], by simp [itemAt?, playlist, bound]⟩

/-- A current item is one of the playlist's. -/
theorem mem_items_of_currentItem (current : c.currentItem? = some item) :
    ∃ playlist, c.playlist = some playlist ∧ item ∈ playlist.items := by
  obtain ⟨place, _, there⟩ := Option.bind_eq_some_iff.mp current
  obtain ⟨playlist, set, there⟩ := Option.bind_eq_some_iff.mp there
  exact ⟨playlist, set, List.mem_of_getElem? there⟩

theorem Lawful.exists_currentItem (lawful : c.Lawful) (position : c.position = some index) :
    ∃ item, c.currentItem? = some item := by
  have inside : index < c.order.length := lawful.inside index position
  obtain ⟨item, there⟩ := lawful.exists_itemAt (List.getElem_mem inside)
  exact ⟨item, by simp [currentItem?, currentPlace?, position, inside, there]⟩

/-- An index that was found can be moved to, and there is the item that was looked for. -/
theorem setIndex_of_indexOf (found : c.indexOf? item = some index) :
    ∃ c', c.setIndex index = .ok c' ∧ ∃ other, c'.currentItem? = some other ∧ other.Same item := by
  obtain ⟨inside, same, _⟩ := List.findIdx?_eq_some_iff_getElem.mp found
  obtain ⟨other, there, same⟩ := (Option.any_eq_true _ _).mp same
  refine ⟨_, if_pos inside, other, ?_, by simpa using same⟩
  unfold currentItem? currentPlace?
  dsimp only [Option.bind_some]
  rw [List.getElem?_eq_getElem inside]
  exact there

/-- An item of the playlist is found. -/
theorem Lawful.exists_indexOf (lawful : c.Lawful) {playlist : Playlist}
    (set : c.playlist = some playlist) (member : playlist.contains item) :
    ∃ index, c.indexOf? item = some index := by
  obtain ⟨place, there⟩ := Option.isSome_iff_exists.mp member
  obtain ⟨bound, same, _⟩ := List.findIdx?_eq_some_iff_getElem.mp there
  have mem : place ∈ c.order :=
    lawful.order.mem_iff.mpr (List.mem_range.mpr (by simpa [set, Playlist.length] using bound))
  apply Option.isSome_iff_exists.mp
  rw [indexOf?, List.findIdx?_isSome, List.any_eq_true]
  exact ⟨place, mem, by simpa [itemAt?, set, bound] using same⟩

theorem Lawful.empty : ({} : Cursor).Lawful := ⟨.refl _, fun _ => rfl, nofun, fun _ => rfl⟩

theorem Lawful.reset (c : Cursor) : c.reset.Lawful := ⟨.refl _, fun _ => rfl, nofun, fun _ => rfl⟩

theorem Lawful.setRepeatMode (lawful : c.Lawful) (mode : RepeatMode) :
    (c.setRepeatMode mode).Lawful :=
  ⟨lawful.order, lawful.plain, lawful.inside, lawful.placed⟩

@[simp] theorem setPlaylist_playlist (c : Cursor) (playlist : Playlist) (words : Entropy) :
    (c.setPlaylist playlist words).1.playlist = some playlist := rfl

theorem Lawful.setPlaylist (c : Cursor) (playlist : Playlist) (words : Entropy) :
    (c.setPlaylist playlist words).1.Lawful := by
  have order : (c.setPlaylist playlist words).1.order.Perm (List.range playlist.length) := by
    unfold Cursor.setPlaylist
    dsimp only
    split
    · exact shuffle_perm _ words
    · exact .refl _
  have length : (c.setPlaylist playlist words).1.order.length = playlist.length := by
    simpa using order.length_eq
  have position : (c.setPlaylist playlist words).1.position =
      if playlist.length = 0 then none else some 0 := rfl
  refine ⟨order, ?_, ?_, ?_⟩
  · intro unshuffled
    have unshuffled : c.shuffled = false := unshuffled
    simp [Cursor.setPlaylist, unshuffled, places]
  · intro index current
    rw [position] at current
    split at current
    · contradiction
    · cases current
      exact Nat.lt_of_lt_of_eq (Nat.pos_of_ne_zero ‹_›) length.symm
  · intro none
    rw [position] at none
    split at none
    case isTrue empty => exact List.eq_nil_of_length_eq_zero (length.trans empty)
    case isFalse => contradiction

theorem Lawful.setIndex (lawful : c.Lawful) {c' : Cursor} (moved : c.setIndex index = .ok c') :
    c'.Lawful := by
  unfold Cursor.setIndex at moved
  split at moved
  case isTrue inside =>
    cases moved
    refine ⟨lawful.order, lawful.plain, ?_, nofun⟩
    rintro _ ⟨⟩
    exact inside
  case isFalse => contradiction

theorem Lawful.moveTo (lawful : c.Lawful) {next : Option Nat}
    (inside : ∀ index, next = some index → index < c.length) : (c.moveTo next).2.Lawful := by
  cases next with
  | none => exact lawful
  | some index =>
    refine ⟨lawful.order, lawful.plain, ?_, nofun⟩
    rintro _ ⟨⟩
    exact inside index rfl

/-- The item that a move gives is the current one afterwards. -/
theorem moveTo_currentItem {next : Option Nat} (given : (c.moveTo next).1 = some item) :
    (c.moveTo next).2.currentItem? = some item := by
  cases next with
  | none => contradiction
  | some index => exact given

theorem Lawful.nextIndex?_lt (lawful : c.Lawful) (next : c.nextIndex? = some index) :
    index < c.length := by
  obtain ⟨p, position, next⟩ := Option.bind_eq_some_iff.mp next
  have inside := lawful.inside p position
  split at next
  · cases next
    exact inside
  · cases next
    exact Nat.mod_lt _ (by omega)
  · split at next
    · cases next
      assumption
    · contradiction

theorem Lawful.previousIndex?_lt (lawful : c.Lawful) (previous : c.previousIndex? = some index) :
    index < c.length := by
  obtain ⟨p, position, previous⟩ := Option.bind_eq_some_iff.mp previous
  have inside := lawful.inside p position
  split at previous
  · cases previous
    exact inside
  · cases previous
    split <;> omega
  · split at previous
    · contradiction
    · cases previous
      omega

theorem Lawful.forward (lawful : c.Lawful) : c.forward.2.Lawful :=
  lawful.moveTo fun _ => lawful.nextIndex?_lt

theorem Lawful.backward (lawful : c.Lawful) : c.backward.2.Lawful :=
  lawful.moveTo fun _ => lawful.previousIndex?_lt

theorem Lawful.currentPlace_lt (lawful : c.Lawful) {place : Nat}
    (current : c.currentPlace? = some place) : place < c.length := by
  obtain ⟨index, _, there⟩ := Option.bind_eq_some_iff.mp current
  have mem := lawful.order.mem_iff.mp (List.mem_of_getElem? there)
  rw [← lawful.range_length] at mem
  exact List.mem_range.mp mem

theorem Lawful.length_of_no_place (lawful : c.Lawful) (none : c.currentPlace? = none) :
    c.length = 0 := by
  cases position : c.position with
  | none => simp [length, lawful.placed position]
  | some index =>
    have inside : index < c.order.length := lawful.inside index position
    simp [currentPlace?, position, inside] at none

/-- Switching shuffle off keeps the current entry. -/
theorem Lawful.unshuffled (lawful : c.Lawful) :
    let c' := { c with shuffled := false, order := List.range c.length, position := c.currentPlace? }
    c'.Lawful ∧ c'.currentPlace? = c.currentPlace? := by
  refine ⟨⟨?_, fun _ => lawful.range_length, ?_, ?_⟩, ?_⟩
  · exact .of_eq lawful.range_length
  · intro place current
    simpa [length] using lawful.currentPlace_lt current
  · intro none
    exact congrArg List.range (lawful.length_of_no_place none)
  · cases current : c.currentPlace? with
    | none => rfl
    | some place =>
      have bound := lawful.currentPlace_lt current
      simp [currentPlace?, bound]

theorem filter_others (place n : Nat) :
    (List.range n).filter (some · ≠ some place) = (List.range n).erase place := by
  rw [List.nodup_range.erase_eq_filter]
  exact List.filter_congr fun other _ => by by_cases same : other = place <;> simp [same]

/-- One place, and then the others in any order, are all places. -/
theorem perm_of_front {place n : Nat} (bound : place < n) {rest : List Nat}
    (others : rest.Perm ((List.range n).filter (some · ≠ some place))) :
    (place :: rest).Perm (List.range n) := by
  rw [filter_others] at others
  exact (others.cons place).trans (List.perm_cons_erase (List.mem_range.mpr bound)).symm

/-- Switching shuffle on keeps the current entry, and it puts it in front. -/
theorem Lawful.shuffled (lawful : c.Lawful) {rest : List Nat}
    (others : rest.Perm ((List.range c.length).filter (some · ≠ c.currentPlace?))) :
    let c' := { c with
      shuffled := true
      order := c.currentPlace?.toList ++ rest
      position := c.currentPlace?.map fun _ => 0 }
    c'.Lawful ∧ c'.currentPlace? = c.currentPlace? := by
  cases current : c.currentPlace? with
  | none =>
    have empty := lawful.length_of_no_place current
    rw [current, empty] at others
    have nothing : rest = [] := others.eq_nil
    refine ⟨⟨?_, nofun, nofun, fun _ => nothing⟩, rfl⟩
    have places := lawful.range_length
    rw [empty] at places
    show rest.Perm c.places
    rw [nothing, ← places]
    exact .refl _
  | some place =>
    rw [current] at others
    have bound := lawful.currentPlace_lt current
    have order := perm_of_front bound others
    rw [lawful.range_length] at order
    refine ⟨⟨order, nofun, ?_, nofun⟩, rfl⟩
    rintro _ ⟨⟩
    exact Nat.succ_pos _

theorem Lawful.setShuffled (lawful : c.Lawful) (shuffled : Bool) (words : Entropy) :
    (c.setShuffled shuffled words).1.Lawful ∧
    (c.setShuffled shuffled words).1.currentPlace? = c.currentPlace? := by
  unfold Cursor.setShuffled
  split
  case isTrue => exact ⟨lawful, rfl⟩
  case isFalse =>
    cases shuffled with
    | true => exact lawful.shuffled (shuffle_perm _ words)
    | false => exact lawful.unshuffled

theorem Lawful.setShuffled_currentItem (lawful : c.Lawful) (shuffled : Bool) (words : Entropy) :
    (c.setShuffled shuffled words).1.currentItem? = c.currentItem? := by
  have playlist : (c.setShuffled shuffled words).1.playlist = c.playlist := by
    unfold Cursor.setShuffled
    split
    · rfl
    · cases shuffled <;> rfl
  have items : (c.setShuffled shuffled words).1.itemAt? = c.itemAt? := by
    funext place
    rw [itemAt?, playlist, itemAt?]
  rw [currentItem?, (lawful.setShuffled shuffled words).2, items, currentItem?]

/-- The index that is some steps ahead of another one, if there is one. -/
def ahead? (c : Cursor) (index steps : Nat) : Option Nat :=
  match c.repeatMode with
  | .off => if index + steps < c.length then some (index + steps) else none
  | .all => some ((index + steps) % c.length)
  | .item => some index

theorem Lawful.ahead?_zero (lawful : c.Lawful) {start : Nat} (position : c.position = some start) :
    c.ahead? start 0 = some start := by
  have inside : start < c.length := lawful.inside start position
  unfold ahead?
  cases c.repeatMode with
  | off => exact if_pos inside
  | all => exact congrArg some (Nat.mod_eq_of_lt inside)
  | item => rfl

/-- To go forward is to go one step further ahead. -/
theorem nextIndex?_of_ahead {start steps : Nat} (ahead : c.ahead? start steps = some index) :
    { c with position := some index }.nextIndex? = c.ahead? start (steps + 1) := by
  unfold ahead? at ahead ⊢
  unfold nextIndex? Cursor.length
  cases mode : c.repeatMode with
  | off =>
    rw [mode] at ahead
    dsimp only at ahead
    split at ahead <;> cases ahead
    rfl
  | all =>
    rw [mode] at ahead
    cases ahead
    exact congrArg some (Nat.mod_add_mod ..)
  | item =>
    rw [mode] at ahead
    cases ahead
    rfl

theorem getElem?_filterMap_of_isSome {α β : Type} {f : α → Option β} {l : List α}
    (all : ∀ a ∈ l, ∃ b, f a = some b) (i : Nat) : (l.filterMap f)[i]? = l[i]?.bind f := by
  induction l generalizing i with
  | nil => rfl
  | cons a rest ih =>
    obtain ⟨b, first⟩ := all a List.mem_cons_self
    rw [List.filterMap_cons_some first]
    cases i with
    | zero => exact first.symm
    | succ i => exact ih (fun a mem => all a (List.mem_cons_of_mem _ mem)) i

/-- The items stand in the effective order. -/
theorem Lawful.getElem?_items (lawful : c.Lawful) (i : Nat) :
    c.items[i]? = c.order[i]?.bind c.itemAt? :=
  getElem?_filterMap_of_isSome (fun _ mem => lawful.exists_itemAt mem) i

theorem Lawful.currentItem?_at (lawful : c.Lawful) (index : Nat) :
    { c with position := some index }.currentItem? = c.items[index]? :=
  (lawful.getElem?_items index).symm

theorem Lawful.exists_ahead (lawful : c.Lawful) {start steps : Nat}
    (position : c.position = some start) (ahead : c.ahead? start steps = some index) :
    ∃ item, c.items[index]? = some item := by
  have inside := lawful.inside start position
  have bound : index < c.order.length := by
    unfold ahead? at ahead
    split at ahead
    · split at ahead <;> cases ahead
      assumption
    · cases ahead
      exact Nat.mod_lt _ (Nat.zero_lt_of_lt inside)
    · cases ahead
      exact inside
  obtain ⟨item, there⟩ := lawful.exists_itemAt (List.getElem_mem bound)
  exact ⟨item, by rw [lawful.getElem?_items, List.getElem?_eq_getElem bound]; exact there⟩

end Cursor
end MediaPlayback
