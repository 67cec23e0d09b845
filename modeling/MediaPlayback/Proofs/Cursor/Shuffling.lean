import MediaPlayback.Proofs.Cursor.Operation

/-! Shuffle is switched around the current entry. Which one that is says its place in the playlist,
not its path, so that of two entries for one file the right one stays current; and once shuffle is off
again, nothing is left of it but how far the cursor was moved in between. -/

namespace MediaPlayback.Cursor

variable {c : Cursor}

/-- The setting that there is already is no change, and no word is drawn for it. -/
theorem setShuffled_self (c : Cursor) (words : Entropy) :
    c.setShuffled c.shuffled words = (c, words) := if_pos rfl

theorem setShuffled_off (shuffled : c.shuffled = true) (words : Entropy) :
    c.setShuffled false words =
      ({ c with shuffled := false, order := List.range c.length, position := c.currentPlace? },
        words) := by
  simp [setShuffled, shuffled]

theorem setShuffled_on (plain : c.shuffled = false) (words : Entropy) :
    (c.setShuffled true words).1 =
      { c with
        shuffled := true
        order := c.currentPlace?.toList ++
          (shuffle ((List.range c.length).filter (some · ≠ c.currentPlace?)) words).1
        position := c.currentPlace?.map fun _ => 0 } := by
  simp [setShuffled, plain]

/-- Switching shuffle on leaves the current entry in front of all others. -/
theorem Lawful.on_of_place (lawful : c.Lawful) (plain : c.shuffled = false) {place : Nat}
    (current : c.currentPlace? = some place) (words : Entropy) :
    ∃ rest, rest.Perm (c.places.erase place) ∧ (c.setShuffled true words).1 =
      { c with shuffled := true, order := place :: rest, position := some 0 } := by
  rw [setShuffled_on plain, current, filter_others, lawful.range_length]
  exact ⟨_, shuffle_perm _ words, rfl⟩

theorem Lawful.on_of_no_place (lawful : c.Lawful) (plain : c.shuffled = false)
    (none : c.currentPlace? = none) (words : Entropy) :
    (c.setShuffled true words).1 = { c with shuffled := true } := by
  have empty := lawful.length_of_no_place none
  have order : c.order = [] := List.eq_nil_of_length_eq_zero empty
  have position : c.position = Option.none := lawful.position_eq_none_iff.mpr order
  rw [setShuffled_on plain, none, empty, order, position]
  rfl

/-- Switching shuffle off finds the current entry at its own place. -/
theorem Lawful.off (lawful : c.Lawful) (shuffled : c.shuffled = true) (words : Entropy) :
    c.setShuffled false words =
      ({ c with shuffled := false, order := c.places, position := c.currentPlace? }, words) := by
  rw [setShuffled_off shuffled, lawful.range_length]

/-- Without shuffle, an index is a place. -/
theorem Lawful.currentPlace?_of_plain (lawful : c.Lawful) (plain : c.shuffled = false) :
    c.currentPlace? = c.position := by
  cases position : c.position with
  | none => simp [currentPlace?, position]
  | some index =>
    have inside := lawful.inside index position
    have order := lawful.plain plain
    rw [← lawful.range_length] at order
    rw [currentPlace?, position, Option.bind_some, order]
    exact List.getElem?_range inside

/-- Shuffle that is switched on and off again leaves a trace only in the position. -/
theorem Lawful.on_off (lawful : c.Lawful) (plain : c.shuffled = false) (words words' : Entropy)
    (moves : List Move) :
    let moved := moves.foldl Cursor.move (c.setShuffled true words).1
    moved.setShuffled false words' = ({ c with position := moved.currentPlace? }, words') := by
  intro moved
  have on := setShuffled_on plain words
  obtain ⟨position, eq⟩ := moves_eq (c.setShuffled true words).1 moves
  have shuffled : moved.shuffled = true := by simp only [moved, eq, on]
  have playlist : moved.playlist = c.playlist := by simp only [moved, eq, on]
  have mode : moved.repeatMode = c.repeatMode := by simp only [moved, eq, on]
  have movedLawful : moved.Lawful := (lawful.setShuffled true words).1.moves moves
  have order : moved.places = c.order := by rw [places, playlist, lawful.plain plain, places]
  rw [movedLawful.off shuffled, order, playlist, mode, ← plain]

/-- Whatever was done to a cursor, the shuffle setting that it has changes nothing. Switching shuffle
on puts the current entry in front of every other one, once each, switching it off puts it back to its
place in the playlist, and either keeps it current. After shuffle was on for some moves, the cursor is
the one from before at the place of the entry that was current last, and after none it is the one
from before. -/
theorem after_setShuffled (operations : List Operation) (words : Entropy) :
    let c := after operations
    let on := (c.setShuffled true words).1
    c.setShuffled c.shuffled words = (c, words) ∧
    (∀ shuffled, (c.setShuffled shuffled words).1.currentPlace? = c.currentPlace? ∧
      (c.setShuffled shuffled words).1.currentItem? = c.currentItem?) ∧
    (c.shuffled = false →
      (c.currentPlace? = none → on = { c with shuffled := true }) ∧
      (∀ place, c.currentPlace? = some place → ∃ rest, rest.Perm (c.places.erase place) ∧
        on = { c with shuffled := true, order := place :: rest, position := some 0 }) ∧
      (∀ words', on.setShuffled false words' = (c, words')) ∧
      ∀ (moves : List Move) words', let moved := moves.foldl move on
        let off := (moved.setShuffled false words').1
        off = { c with position := moved.currentPlace? } ∧
          off.currentPlace? = moved.currentPlace? ∧ off.currentItem? = moved.currentItem?) ∧
    (c.shuffled = true → c.setShuffled false words =
      ({ c with shuffled := false, order := c.places, position := c.currentPlace? }, words)) := by
  intro c on
  have lawful : c.Lawful := after_lawful operations
  have onLawful : on.Lawful := (lawful.setShuffled true words).1
  refine ⟨c.setShuffled_self words, fun shuffled => ⟨(lawful.setShuffled shuffled words).2,
    lawful.setShuffled_currentItem shuffled words⟩, fun plain => ⟨?_, ?_, ?_, ?_⟩, fun shuffled =>
    lawful.off shuffled words⟩
  · exact fun none => lawful.on_of_no_place plain none words
  · exact fun place current => lawful.on_of_place plain current words
  · intro words'
    have back : on.setShuffled false words' = ({ c with position := on.currentPlace? }, words') :=
      lawful.on_off plain words words' []
    rw [back, (lawful.setShuffled true words).2, lawful.currentPlace?_of_plain plain]
  · intro moves words'
    have movedLawful := onLawful.moves moves
    exact ⟨congrArg Prod.fst (lawful.on_off plain words words' moves),
      (movedLawful.setShuffled false words').2, movedLawful.setShuffled_currentItem false words'⟩

-- The second entry for a file stays current, not the first one.
example :
    let twins : Playlist := .collection "" [⟨0, ⟨"/a"⟩, none, none⟩, ⟨1, ⟨"/a"⟩, none, none⟩]
    let c := after [.setPlaylist twins [], .move (.setIndex 1), .setShuffled true []]
    c.position = some 0 ∧ (c.setShuffled false []).1.position = some 1 := by
  decide

end MediaPlayback.Cursor
