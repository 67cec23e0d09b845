import Mathlib.Data.List.Rotate
import MediaPlayback.Proofs.Cursor.Operation

/-! Walks along the effective order in each repeat mode: around and around, up to an end and no
further, or on the spot. -/

namespace MediaPlayback.Cursor

/-- What some steps give one after the other, with the cursor after each. -/
def walk (step : Cursor → Option Item × Cursor) : Nat → Cursor → List (Option Item × Cursor)
  | 0, _ => []
  | n + 1, c => step c :: walk step n (step c).2

/-- What a visit of each index gives, in the effective order. -/
def visits (c : Cursor) : List (Option Item × Cursor) :=
  c.items.mapIdx fun index item => (some item, { c with position := some index })

variable {c : Cursor} {p : Nat}

/-- A list in which each entry is the step after the one before is a walk. -/
theorem walk_eq {step : Cursor → Option Item × Cursor} {l : List (Option Item × Cursor)}
    (first : ∀ _ : 0 < l.length, step c = l[0])
    (next : ∀ k (_ : k + 1 < l.length), step l[k].2 = l[k + 1]) : walk step l.length c = l := by
  induction l generalizing c with
  | nil => rfl
  | cons entry rest ih =>
    have here : step c = entry := first (Nat.succ_pos _)
    have later : walk step rest.length entry.2 = rest :=
      ih (fun inside => next 0 (Nat.succ_lt_succ inside))
        fun k inside => next (k + 1) (Nat.succ_lt_succ inside)
    rw [List.length_cons, walk, here, later]

/-! ## What is visited -/

theorem Lawful.length_items (lawful : c.Lawful) : c.items.length = c.length := by
  rw [items, List.length_filterMap_eq_countP, List.countP_eq_length.mpr, length]
  intro place mem
  obtain ⟨item, there⟩ := lawful.exists_itemAt mem
  simp [there]

theorem Lawful.position_eq_none_iff_items (lawful : c.Lawful) : c.position = none ↔ c.items = [] := by
  rw [lawful.position_eq_none_iff, ← List.length_eq_zero_iff, ← List.length_eq_zero_iff,
    lawful.length_items, length]

theorem Lawful.length_visits (lawful : c.Lawful) : c.visits.length = c.length := by
  rw [visits, List.length_mapIdx, lawful.length_items]

theorem Lawful.getElem_visits (lawful : c.Lawful) {i : Nat} (inside : i < c.visits.length) :
    c.visits[i] = c.moveTo (some i) := by
  have inside' : i < c.items.length := by simpa [visits] using inside
  have item : (c.moveTo (some i)).1 = some c.items[i] :=
    (lawful.currentItem?_at i).trans (List.getElem?_eq_getElem inside')
  simp only [visits, List.getElem_mapIdx]
  exact Prod.ext item.symm rfl

/-- To move to the current index gives the current item. -/
theorem moveTo_position (position : c.position = some p) :
    c.moveTo (some p) = (c.currentItem?, c) := by
  have same : { c with position := some p } = c := by rw [← position]
  simp only [moveTo, same]

/-- A step on from the current index is a step on from a move to it. -/
theorem step_position (position : c.position = some p) (step : Cursor → Option Item × Cursor) :
    step c = step (c.moveTo (some p)).2 := by
  rw [moveTo_position position]

/-! ## Around -/

theorem forward_of_all (mode : c.repeatMode = .all) (i : Nat) :
    (c.moveTo (some i)).2.forward = c.moveTo (some ((i + 1) % c.length)) := by
  have next : (c.moveTo (some i)).2.nextIndex? = some ((i + 1) % c.length) := by
    simp only [moveTo, nextIndex?, Option.bind_some]
    rw [mode]
    rfl
  rw [forward, next]
  rfl

/-- Backward leads to where forward comes from. -/
theorem backward_of_all (mode : c.repeatMode = .all) (inhabited : 0 < c.length) (i : Nat) :
    (c.moveTo (some ((i + 1) % c.length))).2.backward = c.moveTo (some (i % c.length)) := by
  have less : i % c.length < c.length := Nat.mod_lt i inhabited
  have behind : (if (i + 1) % c.length = 0 then c.length - 1 else (i + 1) % c.length - 1) =
      i % c.length := by
    rw [← Nat.mod_add_mod]
    by_cases last : i % c.length + 1 = c.length
    · rw [last, Nat.mod_self, if_pos rfl]
      omega
    · rw [Nat.mod_eq_of_lt (by omega), if_neg (Nat.succ_ne_zero _), Nat.add_sub_cancel]
  have previous : (c.moveTo (some ((i + 1) % c.length))).2.previousIndex? =
      some (i % c.length) := by
    simp only [moveTo, previousIndex?, Option.bind_some]
    rw [mode]
    exact congrArg some behind
  rw [backward, previous]
  rfl

/-- A cursor at an index that goes on at the other end. -/
structure Cycles (c : Cursor) (p : Nat) : Prop where
  forward_backward : c.forward.2.backward = (c.currentItem?, c)
  backward_forward : c.backward.2.forward = (c.currentItem?, c)
  forwards : walk forward c.length c = c.visits.rotate (p + 1)
  backwards : walk backward c.length c = (c.visits.rotate p).reverse
  forwards_return : (walk forward c.length c).getLast? = some (c.currentItem?, c)
  backwards_return : (walk backward c.length c).getLast? = some (c.currentItem?, c)

theorem Lawful.getElem_rotate_visits (lawful : c.Lawful) (n : Nat) {k : Nat}
    (inside : k < (c.visits.rotate n).length) :
    (c.visits.rotate n)[k] = c.moveTo (some ((k + n) % c.length)) := by
  rw [List.getElem_rotate, lawful.getElem_visits, lawful.length_visits]

theorem Lawful.forwards_of_all (lawful : c.Lawful) (mode : c.repeatMode = .all)
    (position : c.position = some p) :
    walk Cursor.forward c.length c = c.visits.rotate (p + 1) := by
  have length : (c.visits.rotate (p + 1)).length = c.length := by
    rw [List.length_rotate, lawful.length_visits]
  rw [← length]
  apply walk_eq
  · intro inside
    rw [step_position position Cursor.forward, forward_of_all mode, lawful.getElem_rotate_visits,
      Nat.zero_add]
  · intro k inside
    rw [lawful.getElem_rotate_visits, lawful.getElem_rotate_visits, forward_of_all mode,
      Nat.mod_add_mod, Nat.add_right_comm]

theorem Lawful.backwards_of_all (lawful : c.Lawful) (mode : c.repeatMode = .all)
    (position : c.position = some p) :
    walk Cursor.backward c.length c = (c.visits.rotate p).reverse := by
  have inside := lawful.inside p position
  have inhabited : 0 < c.length := by omega
  have length : (c.visits.rotate p).reverse.length = c.length := by
    rw [List.length_reverse, List.length_rotate, lawful.length_visits]
  have entry (k : Nat) (less : k < (c.visits.rotate p).reverse.length) :
      (c.visits.rotate p).reverse[k] = c.moveTo (some ((c.length - 1 - k + p) % c.length)) := by
    rw [List.getElem_reverse, lawful.getElem_rotate_visits, List.length_rotate,
      lawful.length_visits]
  rw [← length]
  apply walk_eq
  · intro _
    have here : (c.length - 1 + p + 1) % c.length = p := by
      rw [show c.length - 1 + p + 1 = c.length + p by omega, Nat.add_mod_left,
        Nat.mod_eq_of_lt inside]
    rw [entry, step_position position Cursor.backward, Nat.sub_zero, ← backward_of_all mode inhabited,
      here]
  · intro k less
    have here : c.length - 1 - k + p = c.length - 1 - (k + 1) + p + 1 := by omega
    rw [entry, entry, here, backward_of_all mode inhabited]

theorem Lawful.cycles (lawful : c.Lawful) (mode : c.repeatMode = .all)
    (position : c.position = some p) : c.Cycles p := by
  have inside := lawful.inside p position
  have inhabited : 0 < c.length := by omega
  have around (n i : Nat) (less : i < c.length) (here : (i + n) % c.length = p) :
      (c.visits.rotate n)[i]? = some (c.currentItem?, c) := by
    have less : i < (c.visits.rotate n).length := by
      rwa [List.length_rotate, lawful.length_visits]
    rw [List.getElem?_eq_getElem less, lawful.getElem_rotate_visits, here, moveTo_position position]
  refine ⟨?_, ?_, lawful.forwards_of_all mode position, lawful.backwards_of_all mode position, ?_,
    ?_⟩
  · rw [step_position position Cursor.forward, forward_of_all mode, backward_of_all mode inhabited,
      Nat.mod_eq_of_lt inside, moveTo_position position]
  · -- The current index as the one that follows another: all that backward undoes.
    obtain ⟨q, here⟩ : ∃ q, (q + 1) % c.length = p :=
      ⟨c.length + p - 1, by
        rw [show c.length + p - 1 + 1 = c.length + p by omega, Nat.add_mod_left,
          Nat.mod_eq_of_lt inside]⟩
    have back : c.backward = c.moveTo (some (q % c.length)) := by
      rw [step_position position Cursor.backward, ← here, backward_of_all mode inhabited]
    rw [back, forward_of_all mode, Nat.mod_add_mod, here, moveTo_position position]
  · rw [lawful.forwards_of_all mode position, List.getLast?_eq_getElem?, List.length_rotate,
      lawful.length_visits]
    apply around (p + 1) (c.length - 1) (by omega)
    rw [show c.length - 1 + (p + 1) = c.length + p by omega, Nat.add_mod_left,
      Nat.mod_eq_of_lt inside]
  · rw [lawful.backwards_of_all mode position, List.getLast?_reverse, List.head?_eq_getElem?]
    exact around p 0 inhabited (by rw [Nat.zero_add, Nat.mod_eq_of_lt inside])

/-! ## Up to an end -/

theorem forward_of_off (mode : c.repeatMode = .off) {i : Nat} (inside : i < c.length) :
    (c.moveTo (some i)).2.forward =
      if i + 1 < c.length then c.moveTo (some (i + 1))
      else (none, { c with position := some (c.length - 1) }) := by
  have next : (c.moveTo (some i)).2.nextIndex? =
      if i + 1 < c.length then some (i + 1) else none := by
    simp only [moveTo, nextIndex?, Option.bind_some]
    rw [mode]
    rfl
  rw [forward, next]
  split
  case isTrue => rfl
  case isFalse last =>
    rw [show i = c.length - 1 by omega]
    rfl

theorem backward_of_off (mode : c.repeatMode = .off) (i : Nat) :
    (c.moveTo (some i)).2.backward =
      if i = 0 then (none, { c with position := some 0 }) else c.moveTo (some (i - 1)) := by
  have previous : (c.moveTo (some i)).2.previousIndex? = if i = 0 then none else some (i - 1) := by
    simp only [moveTo, previousIndex?, Option.bind_some]
    rw [mode]
  rw [backward, previous]
  split
  case isTrue first =>
    rw [first]
    rfl
  case isFalse => rfl

/-- A cursor at an index that goes no further than to the ends. -/
structure Ends (c : Cursor) (p : Nat) : Prop where
  forward_backward : c.forward.1.isSome → c.forward.2.backward = (c.currentItem?, c)
  forwards : ∀ k, walk forward (c.length - (p + 1) + k) c =
    c.visits.drop (p + 1) ++ List.replicate k (none, { c with position := some (c.length - 1) })
  backwards : ∀ k, walk backward (p + k) c =
    (c.visits.take p).reverse ++ List.replicate k (none, { c with position := some 0 })

theorem Lawful.forwards_of_off (lawful : c.Lawful) (mode : c.repeatMode = .off)
    (position : c.position = some p) (k : Nat) :
    walk Cursor.forward (c.length - (p + 1) + k) c = c.visits.drop (p + 1) ++
      List.replicate k (none, { c with position := some (c.length - 1) }) := by
  let last : Cursor := { c with position := some (c.length - 1) }
  have inside := lawful.inside p position
  generalize outcomes : c.visits.drop (p + 1) ++ List.replicate k (none, last) = l
  have length : l.length = c.length - (p + 1) + k := by simp [← outcomes, lawful.length_visits]
  have entry (i : Nat) (less : i < l.length) : l[i] =
      if p + i + 1 < c.length then c.moveTo (some (p + i + 1)) else (none, last) := by
    subst outcomes
    have visited : (c.visits.drop (p + 1)).length = c.length - (p + 1) := by
      rw [List.length_drop, lawful.length_visits]
    rw [List.getElem_append]
    split
    case isTrue =>
      rw [List.getElem_drop, lawful.getElem_visits, if_pos (by omega), Nat.add_right_comm]
    case isFalse => rw [List.getElem_replicate, if_neg (by omega)]
  -- From the last index on, every step stays there.
  have stays : last.forward = (none, last) :=
    (forward_of_off mode (by omega)).trans (if_neg (by omega))
  rw [← length]
  apply walk_eq
  · intro less
    rw [entry, step_position position Cursor.forward, forward_of_off mode inside]
  · intro i less
    rw [entry, entry]
    by_cases before : p + i + 1 < c.length
    · rw [if_pos before, forward_of_off mode before]
      rfl
    · rw [if_neg before, if_neg (by omega)]
      exact stays

theorem Lawful.backwards_of_off (lawful : c.Lawful) (mode : c.repeatMode = .off)
    (position : c.position = some p) (k : Nat) :
    walk Cursor.backward (p + k) c =
      (c.visits.take p).reverse ++ List.replicate k (none, { c with position := some 0 }) := by
  let first : Cursor := { c with position := some 0 }
  have inside := lawful.inside p position
  generalize outcomes : (c.visits.take p).reverse ++ List.replicate k (none, first) = l
  have visited : (c.visits.take p).length = p := by
    rw [List.length_take, lawful.length_visits]
    omega
  have length : l.length = p + k := by simp [← outcomes, visited, -List.length_take]
  have entry (i : Nat) (less : i < l.length) :
      l[i] = if p - i = 0 then (none, first) else c.moveTo (some (p - i - 1)) := by
    subst outcomes
    rw [List.getElem_append]
    split
    case isTrue before =>
      rw [List.length_reverse, visited] at before
      rw [List.getElem_reverse, List.getElem_take, lawful.getElem_visits, if_neg (by omega), visited,
        Nat.sub_right_comm]
    case isFalse behind =>
      rw [List.length_reverse, visited] at behind
      rw [List.getElem_replicate, if_pos (by omega)]
  have stays : first.backward = (none, first) := backward_of_off mode 0
  rw [← length]
  apply walk_eq
  · intro less
    rw [entry, step_position position Cursor.backward, backward_of_off mode]
    rfl
  · intro i less
    rw [entry, entry]
    by_cases before : p - i = 0
    · rw [if_pos before, if_pos (by omega)]
      exact stays
    · rw [if_neg before, backward_of_off mode, Nat.sub_sub]

theorem Lawful.ends (lawful : c.Lawful) (mode : c.repeatMode = .off)
    (position : c.position = some p) : c.Ends p := by
  have inside := lawful.inside p position
  refine ⟨fun given => ?_, lawful.forwards_of_off mode position,
    lawful.backwards_of_off mode position⟩
  have onward := (step_position position Cursor.forward).trans (forward_of_off mode inside)
  by_cases next : p + 1 < c.length
  · rw [onward, if_pos next, backward_of_off mode, if_neg (Nat.succ_ne_zero p), Nat.add_sub_cancel,
      moveTo_position position]
  · simp [onward, next] at given

/-! ## On the spot -/

/-- A cursor that does not leave its item. -/
structure Stays (c : Cursor) : Prop where
  current : c.currentItem?.isSome
  forward : c.forward = (c.currentItem?, c)
  backward : c.backward = (c.currentItem?, c)

theorem Lawful.stays (lawful : c.Lawful) (mode : c.repeatMode = .item)
    (position : c.position = some p) : c.Stays := by
  have next : c.nextIndex? = some p := by simp only [nextIndex?, position, mode, Option.bind_some]
  have previous : c.previousIndex? = some p := by
    simp only [previousIndex?, position, mode, Option.bind_some]
  refine ⟨Option.isSome_iff_exists.mpr (lawful.exists_currentItem position), ?_, ?_⟩
  · rw [Cursor.forward, next, moveTo_position position]
  · rw [Cursor.backward, previous, moveTo_position position]

/-! ## Whether there is a way -/

theorem Lawful.isSome_moveTo (lawful : c.Lawful) {next : Option Nat}
    (inside : ∀ index, next = some index → index < c.length) :
    next.isSome = (c.moveTo next).1.isSome := by
  cases next with
  | none => rfl
  | some index =>
    obtain ⟨item, there⟩ := (lawful.moveTo inside).exists_currentItem rfl
    exact (congrArg Option.isSome there).symm

theorem Lawful.moveTo_of_none (lawful : c.Lawful) {next : Option Nat}
    (inside : ∀ index, next = some index → index < c.length) (nothing : (c.moveTo next).1 = none) :
    (c.moveTo next).2 = c := by
  cases next with
  | none => rfl
  | some index =>
    have given := lawful.isSome_moveTo inside
    rw [nothing] at given
    contradiction

/-- Whatever was done to a cursor, it says of each direction whether there is an item there, and if
there is none, it stays as it is. Without items there is none in either. With items, it goes around
all of them, up to either end, or nowhere, as its repeat mode has it. -/
theorem after_navigation (operations : List Operation) :
    let c := after operations
    c.canForward = c.forward.1.isSome ∧ c.canBackward = c.backward.1.isSome ∧
    (c.forward.1 = none → c.forward.2 = c) ∧ (c.backward.1 = none → c.backward.2 = c) ∧
    (c.items = [] → c.forward = (none, c) ∧ c.backward = (none, c)) ∧
    (c.items ≠ [] → ∃ p < c.items.length, c.position = some p ∧ (c.repeatMode = .all → c.Cycles p) ∧
      (c.repeatMode = .off → c.Ends p) ∧ (c.repeatMode = .item → c.Stays)) := by
  intro c
  have lawful : c.Lawful := after_lawful operations
  have next (index : Nat) : c.nextIndex? = some index → index < c.length := lawful.nextIndex?_lt
  have previous (index : Nat) : c.previousIndex? = some index → index < c.length :=
    lawful.previousIndex?_lt
  refine ⟨lawful.isSome_moveTo next, lawful.isSome_moveTo previous, lawful.moveTo_of_none next,
    lawful.moveTo_of_none previous, fun empty => ?_, fun inhabited => ?_⟩
  · have nowhere : c.position = none := lawful.position_eq_none_iff_items.mpr empty
    constructor
    · rw [forward, nextIndex?, nowhere]
      rfl
    · rw [backward, previousIndex?, nowhere]
      rfl
  · cases position : c.position with
    | none => exact absurd (lawful.position_eq_none_iff_items.mp position) inhabited
    | some p =>
      refine ⟨p, ?_, rfl, fun mode => lawful.cycles mode position,
        fun mode => lawful.ends mode position, fun mode => lawful.stays mode position⟩
      rw [lawful.length_items]
      exact lawful.inside p position

end MediaPlayback.Cursor
