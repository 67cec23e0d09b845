import MediaPlayback.Proofs.Cursor

/-! Cursors as they come about: from a new one, by operations in any order, with any playlists and any
random words. What holds of every lawful cursor holds of all of them. -/

namespace MediaPlayback.Cursor

/-- A move along the effective order. -/
inductive Move where
  | forward
  | backward
  | setIndex (index : Nat)
deriving DecidableEq, Repr

/-- The cursor after a move. An index that is refused leaves it where it is. -/
def move (c : Cursor) : Move → Cursor
  | .forward => c.forward.2
  | .backward => c.backward.2
  | .setIndex index =>
    match c.setIndex index with
    | .ok moved => moved
    | .error _ => c

/-- Something that can be done to a cursor. -/
inductive Operation where
  | setPlaylist (playlist : Playlist) (words : Entropy)
  | move (move : Move)
  | reset
  | setShuffled (shuffled : Bool) (words : Entropy)
  | setRepeatMode (mode : RepeatMode)
deriving DecidableEq, Repr

/-- The cursor after an operation. -/
def operate (c : Cursor) : Operation → Cursor
  | .setPlaylist playlist words => (c.setPlaylist playlist words).1
  | .move move => c.move move
  | .reset => c.reset
  | .setShuffled shuffled words => (c.setShuffled shuffled words).1
  | .setRepeatMode mode => c.setRepeatMode mode

/-- The cursor that operations make of a new one. -/
def after (operations : List Operation) : Cursor := operations.foldl operate {}

variable {c : Cursor}

theorem move_setIndex (c : Cursor) (index : Nat) :
    c.move (.setIndex index) = if index < c.length then { c with position := some index } else c := by
  simp only [move, setIndex]
  by_cases inside : index < c.length <;> simp [inside]

/-- A move only changes the position. -/
theorem move_eq (c : Cursor) (move : Move) : ∃ position, c.move move = { c with position } := by
  have moveTo : ∀ next, ∃ position, (c.moveTo next).2 = { c with position } := by
    intro next
    cases next with
    | none => exact ⟨c.position, rfl⟩
    | some index => exact ⟨some index, rfl⟩
  cases move with
  | forward => exact moveTo c.nextIndex?
  | backward => exact moveTo c.previousIndex?
  | setIndex index =>
    rw [move_setIndex]
    split
    · exact ⟨some index, rfl⟩
    · exact ⟨c.position, rfl⟩

theorem moves_eq (c : Cursor) (moves : List Move) :
    ∃ position, moves.foldl move c = { c with position } := by
  induction moves generalizing c with
  | nil => exact ⟨c.position, rfl⟩
  | cons first rest ih =>
    obtain ⟨position, moved⟩ := c.move_eq first
    obtain ⟨position', moved'⟩ := ih { c with position }
    exact ⟨position', by rw [List.foldl_cons, moved, moved']⟩

theorem Lawful.move (lawful : c.Lawful) (move : Move) : (c.move move).Lawful := by
  cases move with
  | forward => exact lawful.forward
  | backward => exact lawful.backward
  | setIndex index =>
    rw [move_setIndex]
    split
    case isTrue inside => exact lawful.setIndex (if_pos inside)
    case isFalse => exact lawful

theorem Lawful.moves (lawful : c.Lawful) (moves : List Move) : (moves.foldl Cursor.move c).Lawful := by
  induction moves generalizing c with
  | nil => exact lawful
  | cons first rest ih => exact ih (lawful.move first)

theorem Lawful.operate (lawful : c.Lawful) (operation : Operation) :
    (c.operate operation).Lawful := by
  cases operation with
  | setPlaylist playlist words => exact .setPlaylist c playlist words
  | move move => exact lawful.move move
  | reset => exact .reset c
  | setShuffled shuffled words => exact (lawful.setShuffled shuffled words).1
  | setRepeatMode mode => exact lawful.setRepeatMode mode

/-- Every cursor is lawful, whatever was done to it. -/
theorem after_lawful (operations : List Operation) : (after operations).Lawful := by
  have run : ∀ c : Cursor, c.Lawful → (operations.foldl Cursor.operate c).Lawful := by
    induction operations with
    | nil => exact fun _ lawful => lawful
    | cons first rest ih => exact fun c lawful => ih (c.operate first) (lawful.operate first)
  exact run {} .empty

end MediaPlayback.Cursor
