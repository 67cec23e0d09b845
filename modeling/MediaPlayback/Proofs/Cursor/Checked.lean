import MediaPlayback.Proofs.Cursor.Operation

/-! The cursor on a machine that faults: looking up an index that is not there, taking more away than
there is, and dividing by zero end everything there. The operations that do such things are written
down once more for it. On every cursor that comes about they give what the cursor's own operations
give, which never fault. -/

namespace MediaPlayback

namespace Checked

/-- Why a machine cannot go on. -/
inductive Fault where
  | outOfBounds (index length : Nat)
  | underflow (minuend subtrahend : Nat)
  | remainderByZero (dividend : Nat)
deriving DecidableEq, Repr

def get {α : Type} (xs : List α) (i : Nat) : Except Fault α :=
  if inside : i < xs.length then .ok xs[i] else .error (.outOfBounds i xs.length)

def sub (a b : Nat) : Except Fault Nat := if b ≤ a then .ok (a - b) else .error (.underflow a b)

def rem (a b : Nat) : Except Fault Nat := if b = 0 then .error (.remainderByZero a) else .ok (a % b)

def swap {α : Type} (xs : Array α) (i j : Nat) : Except Fault (Array α) :=
  if inside : i < xs.size then
    if inside' : j < xs.size then .ok (xs.swap i j) else .error (.outOfBounds j xs.size)
  else .error (.outOfBounds i xs.size)

/-- The exchanges of a shuffle. -/
def exchange {α : Type} : Nat → Array α → Entropy → Except Fault (Array α × Entropy)
  | 0, xs, words => .ok (xs, words)
  | i + 1, xs, words => do
    let (j, words) := Shuffle.below (i + 2) words
    let xs ← swap xs (i + 1) j
    exchange i xs words

def shuffle {α : Type} (xs : List α) (words : Entropy) : Except Fault (List α × Entropy) := do
  let (ys, words) ← exchange (xs.length - 1) xs.toArray words
  return (ys.toList, words)

def currentPlace? (c : Cursor) : Except Fault (Option Nat) :=
  match c.position with
  | none => .ok none
  | some index => some <$> get c.order index

def currentItem? (c : Cursor) : Except Fault (Option Item) :=
  match c.playlist with
  | none => .ok none
  | some playlist => do
    match ← currentPlace? c with
    | none => return none
    | some place => return some (← get playlist.items place)

/-- The first index in a list of places where a track is. -/
def search (items : List Item) (item : Item) : List Nat → Except Fault (Option Nat)
  | [] => .ok none
  | place :: rest => do
    let other ← get items place
    if other.Same item then return some 0
    return (← search items item rest).map (· + 1)

def indexOf? (c : Cursor) (item : Item) : Except Fault (Option Nat) :=
  match c.playlist with
  | none => .ok none
  | some playlist => search playlist.items item c.order

def items (c : Cursor) : Except Fault (List Item) :=
  match c.playlist with
  | none => .ok []
  | some playlist => c.order.mapM (get playlist.items)

def nextIndex? (c : Cursor) : Except Fault (Option Nat) :=
  match c.position with
  | none => .ok none
  | some p =>
    match c.repeatMode with
    | .item => .ok (some p)
    | .all => some <$> rem (p + 1) c.length
    | .off => .ok (if p + 1 < c.length then some (p + 1) else none)

def previousIndex? (c : Cursor) : Except Fault (Option Nat) :=
  match c.position with
  | none => .ok none
  | some p =>
    match c.repeatMode with
    | .item => .ok (some p)
    | .all => some <$> if p = 0 then sub c.length 1 else sub p 1
    | .off => if p = 0 then .ok none else some <$> sub p 1

def moveTo (c : Cursor) : Option Nat → Except Fault (Option Item × Cursor)
  | none => .ok (none, c)
  | some index => do
    let c := { c with position := some index }
    return (← currentItem? c, c)

def forward (c : Cursor) : Except Fault (Option Item × Cursor) := do
  moveTo c (← nextIndex? c)

def backward (c : Cursor) : Except Fault (Option Item × Cursor) := do
  moveTo c (← previousIndex? c)

def canForward (c : Cursor) : Except Fault Bool := Option.isSome <$> nextIndex? c

def canBackward (c : Cursor) : Except Fault Bool := Option.isSome <$> previousIndex? c

def setPlaylist (c : Cursor) (playlist : Playlist) (words : Entropy) :
    Except Fault (Cursor × Entropy) := do
  let places := List.range playlist.length
  let (order, words) ← if c.shuffled then shuffle places words else .ok (places, words)
  let position := if playlist.length = 0 then none else some 0
  return ({ c with playlist := some playlist, order, position }, words)

def setShuffled (c : Cursor) (shuffled : Bool) (words : Entropy) :
    Except Fault (Cursor × Entropy) := do
  if c.shuffled = shuffled then return (c, words)
  let current ← currentPlace? c
  let places := List.range c.length
  if shuffled then
    let (rest, words) ← shuffle (places.filter (some · ≠ current)) words
    return ({ c with
        shuffled, order := current.toList ++ rest, position := current.map fun _ => 0 }, words)
  return ({ c with shuffled, order := places, position := current }, words)

end Checked

theorem Shuffle.below_lt {n : Nat} (positive : 0 < n) (words : Entropy) : (below n words).1 < n := by
  induction words with
  | nil => exact positive
  | cons word rest ih =>
    simp only [below]
    split
    · exact Nat.div_lt_of_lt_mul (Nat.mul_lt_mul_of_pos_right word.toNat_lt_size positive)
    · exact ih

namespace Checked

variable {α : Type} {c : Cursor}

theorem get_eq {xs : List α} {i : Nat} {a : α} (there : xs[i]? = some a) : get xs i = .ok a := by
  obtain ⟨inside, rfl⟩ := List.getElem?_eq_some_iff.mp there
  exact dif_pos inside

/-- All that a shuffle exchanges is there. -/
theorem exchange_eq (i : Nat) {xs : Array α} (inside : i ≤ xs.size - 1) (words : Entropy) :
    exchange i xs words = .ok (Shuffle.exchange i xs words) := by
  induction i generalizing xs words with
  | zero => rfl
  | succ i ih =>
    have drawn : (Shuffle.below (i + 2) words).1 < i + 2 := Shuffle.below_lt (by omega) words
    have upper : i + 1 < xs.size := by omega
    have lower : (Shuffle.below (i + 2) words).1 < xs.size := by omega
    have swapped : xs.swapIfInBounds (i + 1) (Shuffle.below (i + 2) words).1 =
        xs.swap (i + 1) (Shuffle.below (i + 2) words).1 := by
      simp [Array.swapIfInBounds, upper, lower]
    simp only [exchange, Shuffle.exchange, swap, upper, lower, dif_pos, swapped]
    exact ih (by simp only [Array.size_swap]; omega) _

theorem shuffle_eq (xs : List α) (words : Entropy) :
    shuffle xs words = .ok (MediaPlayback.shuffle xs words) := by
  unfold shuffle
  rw [exchange_eq (xs.length - 1) (Nat.le_refl _)]
  rfl

theorem currentPlace?_eq (lawful : c.Lawful) : currentPlace? c = .ok c.currentPlace? := by
  unfold currentPlace? Cursor.currentPlace?
  cases position : c.position with
  | none => rfl
  | some index =>
    have there := List.getElem?_eq_getElem (lawful.inside index position)
    simp only [Option.bind_some, get_eq there, there]
    rfl

/-- An entry of the order is looked up in the playlist, and it is there. -/
theorem get_place (lawful : c.Lawful) {playlist : Playlist} (set : c.playlist = some playlist)
    {place : Nat} (mem : place ∈ c.order) :
    ∃ item, get playlist.items place = .ok item ∧ c.itemAt? place = some item := by
  obtain ⟨item, there⟩ := lawful.exists_itemAt mem
  refine ⟨item, get_eq ?_, there⟩
  rwa [Cursor.itemAt?, set] at there

theorem currentItem?_eq (lawful : c.Lawful) : currentItem? c = .ok c.currentItem? := by
  unfold currentItem? Cursor.currentItem?
  rw [currentPlace?_eq lawful]
  cases set : c.playlist with
  | none => cases c.currentPlace? <;> simp [Cursor.itemAt?, set]
  | some playlist =>
    cases current : c.currentPlace? with
    | none => rfl
    | some place =>
      obtain ⟨index, _, there⟩ := Option.bind_eq_some_iff.mp current
      obtain ⟨item, found, at_place⟩ := get_place lawful set (List.mem_of_getElem? there)
      simp [found, at_place, bind, Except.bind, pure, Except.pure]

theorem search_eq {items : List Item} {at? : Nat → Option Item} {places : List Nat}
    (all : ∀ place ∈ places, ∃ item, get items place = .ok item ∧ at? place = some item)
    (item : Item) :
    search items item places = .ok (places.findIdx? fun place => (at? place).any (·.Same item)) := by
  induction places with
  | nil => rfl
  | cons place rest ih =>
    obtain ⟨other, found, there⟩ := all place List.mem_cons_self
    have later := ih fun place mem => all place (List.mem_cons_of_mem _ mem)
    rw [search, found, later, List.findIdx?_cons, there]
    by_cases same : other.Same item <;> simp [same, bind, Except.bind, pure, Except.pure]

theorem indexOf?_eq (lawful : c.Lawful) (item : Item) : indexOf? c item = .ok (c.indexOf? item) := by
  unfold indexOf? Cursor.indexOf?
  cases set : c.playlist with
  | none => rw [lawful.order_of_unset set, List.findIdx?_nil]
  | some playlist => exact search_eq (fun _ => get_place lawful set) item

theorem mapM_eq {α β : Type} {f : α → Except Fault β} {g : α → Option β} {l : List α}
    (all : ∀ a ∈ l, ∃ b, f a = .ok b ∧ g a = some b) : l.mapM f = .ok (l.filterMap g) := by
  induction l with
  | nil => rfl
  | cons a rest ih =>
    obtain ⟨b, found, there⟩ := all a List.mem_cons_self
    rw [List.mapM_cons, found, ih fun a mem => all a (List.mem_cons_of_mem _ mem),
      List.filterMap_cons_some there]
    rfl

theorem items_eq (lawful : c.Lawful) : items c = .ok c.items := by
  unfold items Cursor.items
  cases set : c.playlist with
  | none => rw [lawful.order_of_unset set, List.filterMap_nil]
  | some playlist => exact mapM_eq fun _ => get_place lawful set

theorem nextIndex?_eq (lawful : c.Lawful) : nextIndex? c = .ok c.nextIndex? := by
  unfold nextIndex? Cursor.nextIndex?
  cases position : c.position with
  | none => rfl
  | some p =>
    have inside := lawful.inside p position
    have positive : c.length ≠ 0 := by omega
    cases c.repeatMode <;> simp [rem, positive, Functor.map, Except.map]

theorem previousIndex?_eq (lawful : c.Lawful) : previousIndex? c = .ok c.previousIndex? := by
  unfold previousIndex? Cursor.previousIndex?
  cases position : c.position with
  | none => rfl
  | some p =>
    have inside := lawful.inside p position
    have positive : 1 ≤ c.length := by omega
    by_cases first : p = 0
    · cases c.repeatMode <;> simp [sub, first, positive, Functor.map, Except.map]
    · have behind : 1 ≤ p := by omega
      cases c.repeatMode <;> simp [sub, first, behind, Functor.map, Except.map]

theorem moveTo_eq (lawful : c.Lawful) {next : Option Nat}
    (inside : ∀ index, next = some index → index < c.length) :
    moveTo c next = .ok (c.moveTo next) := by
  cases next with
  | none => rfl
  | some index =>
    have current : currentItem? { c with position := some index } = .ok _ :=
      currentItem?_eq (lawful.moveTo inside)
    unfold moveTo
    dsimp only
    rw [current]
    rfl

theorem forward_eq (lawful : c.Lawful) : forward c = .ok c.forward := by
  rw [forward, nextIndex?_eq lawful]
  exact moveTo_eq lawful fun _ => lawful.nextIndex?_lt

theorem backward_eq (lawful : c.Lawful) : backward c = .ok c.backward := by
  rw [backward, previousIndex?_eq lawful]
  exact moveTo_eq lawful fun _ => lawful.previousIndex?_lt

theorem canForward_eq (lawful : c.Lawful) : canForward c = .ok c.canForward := by
  rw [canForward, nextIndex?_eq lawful]
  rfl

theorem canBackward_eq (lawful : c.Lawful) : canBackward c = .ok c.canBackward := by
  rw [canBackward, previousIndex?_eq lawful]
  rfl

theorem setPlaylist_eq (c : Cursor) (playlist : Playlist) (words : Entropy) :
    setPlaylist c playlist words = .ok (c.setPlaylist playlist words) := by
  simp only [setPlaylist, Cursor.setPlaylist, shuffle_eq]
  cases c.shuffled <;> rfl

theorem setShuffled_eq (lawful : c.Lawful) (shuffled : Bool) (words : Entropy) :
    setShuffled c shuffled words = .ok (c.setShuffled shuffled words) := by
  simp only [setShuffled, Cursor.setShuffled, currentPlace?_eq lawful, shuffle_eq]
  by_cases same : c.shuffled = shuffled
  · rw [if_pos same, if_pos same]
    rfl
  · rw [if_neg same, if_neg same]
    cases shuffled <;> rfl

end Checked

namespace Cursor

variable {c : Cursor}

/-- Nothing that is done with a cursor faults. What is left out here looks nothing up and takes
nothing away: to move to an index, to reset and to set the repeat mode. -/
structure Faultless (c : Cursor) : Prop where
  currentItem? : Checked.currentItem? c = .ok c.currentItem?
  items : Checked.items c = .ok c.items
  indexOf? : ∀ item, Checked.indexOf? c item = .ok (c.indexOf? item)
  canForward : Checked.canForward c = .ok c.canForward
  canBackward : Checked.canBackward c = .ok c.canBackward
  forward : Checked.forward c = .ok c.forward
  backward : Checked.backward c = .ok c.backward
  setPlaylist : ∀ playlist words,
    Checked.setPlaylist c playlist words = .ok (c.setPlaylist playlist words)
  setShuffled : ∀ shuffled words,
    Checked.setShuffled c shuffled words = .ok (c.setShuffled shuffled words)

theorem Lawful.faultless (lawful : c.Lawful) : c.Faultless where
  currentItem? := Checked.currentItem?_eq lawful
  items := Checked.items_eq lawful
  indexOf? := Checked.indexOf?_eq lawful
  canForward := Checked.canForward_eq lawful
  canBackward := Checked.canBackward_eq lawful
  forward := Checked.forward_eq lawful
  backward := Checked.backward_eq lawful
  setPlaylist := Checked.setPlaylist_eq c
  setShuffled := Checked.setShuffled_eq lawful

/-- The items are those of the playlist, each as often as it is there. -/
theorem Lawful.items_perm (lawful : c.Lawful) :
    c.items.Perm (c.playlist.elim [] Playlist.items) := by
  have reordered : c.items.Perm (c.places.filterMap c.itemAt?) := lawful.order.filterMap c.itemAt?
  have whole : c.places.filterMap c.itemAt? = c.playlist.elim [] Playlist.items := by
    cases set : c.playlist with
    | none => simp [places, set]
    | some playlist =>
      have all : ∀ place ∈ c.places, ∃ item, c.itemAt? place = some item := fun place mem =>
        lawful.exists_itemAt (lawful.order.mem_iff.mpr mem)
      apply List.ext_getElem?
      intro i
      rw [getElem?_filterMap_of_isSome all, places, set]
      by_cases inside : i < playlist.items.length <;>
        simp [itemAt?, set, Playlist.length, inside]
  rwa [whole] at reordered

/-- Whatever was done to a cursor, its order holds every place of the playlist once, in the playlist's
own order without shuffle, and a position exactly if there is something to point to, which lies
within the order. So nothing that is done next faults, the items are those of the playlist, and an
index that was found for an item leads to the track. -/
theorem after_well_formed (operations : List Operation) :
    let c := after operations
    (c.order.Perm (List.range (c.playlist.elim 0 Playlist.length)) ∧
      (c.playlist = none → c.order = []) ∧
      (c.shuffled = false → c.order = List.range (c.playlist.elim 0 Playlist.length)) ∧
      (c.position = none ↔ c.order = []) ∧
      ∀ index, c.position = some index → index < c.length) ∧
    c.Faultless ∧ c.items.Perm (c.playlist.elim [] Playlist.items) ∧
    ∀ item index, c.indexOf? item = some index → ∃ moved current, c.setIndex index = .ok moved ∧
      moved.currentItem? = some current ∧ current.Same item := by
  intro c
  have lawful : c.Lawful := after_lawful operations
  refine ⟨⟨lawful.order, lawful.order_of_unset, lawful.plain, lawful.position_eq_none_iff,
    lawful.inside⟩, lawful.faultless, lawful.items_perm, fun item index found => ?_⟩
  obtain ⟨moved, sets, current, there, same⟩ := setIndex_of_indexOf found
  exact ⟨moved, current, sets, there, same⟩

end Cursor
end MediaPlayback
