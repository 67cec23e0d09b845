import Mathlib.Data.List.Pairwise
import Mathlib.Data.List.Perm.Basic
import MediaPlayback.Json.Reader
import MediaPlayback.Proofs.Json.Text

/-! Values whose fields stand in another order, at any depth, and readers that do not mind. -/

namespace MediaPlayback

namespace Json

mutual

/-- Two values differ at most in the order of fields. -/
inductive Reordered : Json → Json → Prop
  | null : Reordered .null .null
  | bool (b : Bool) : Reordered (.bool b) (.bool b)
  | nat (n : Nat) : Reordered (.nat n) (.nat n)
  | number (literal : List Char) : Reordered (.number literal) (.number literal)
  | string (s : String) : Reordered (.string s) (.string s)
  | array {items items' : List Json} (each : ReorderedItems items items') :
      Reordered (.array items) (.array items')
  | object {fields fields' fields'' : List (String × Json)} (each : ReorderedFields fields fields')
      (order : fields'.Perm fields'') : Reordered (.object fields) (.object fields'')

/-- The items of two arrays differ at most in the order of fields. -/
inductive ReorderedItems : List Json → List Json → Prop
  | nil : ReorderedItems [] []
  | cons {item item' : Json} {items items' : List Json} (first : Reordered item item')
      (others : ReorderedItems items items') : ReorderedItems (item :: items) (item' :: items')

/-- The fields of two objects stand in the same order, and differ at most within their values. -/
inductive ReorderedFields : List (String × Json) → List (String × Json) → Prop
  | nil : ReorderedFields [] []
  | cons {name : String} {value value' : Json} {fields fields' : List (String × Json)}
      (first : Reordered value value') (others : ReorderedFields fields fields') :
      ReorderedFields ((name, value) :: fields) ((name, value') :: fields')

end

mutual

theorem Reordered.refl : ∀ j : Json, Reordered j j
  | .null => .null
  | .bool b => .bool b
  | .nat n => .nat n
  | .number literal => .number literal
  | .string s => .string s
  | .array items => .array (ReorderedItems.refl items)
  | .object fields => .object (ReorderedFields.refl fields) (.refl fields)

theorem ReorderedItems.refl : ∀ items : List Json, ReorderedItems items items
  | [] => .nil
  | item :: items => .cons (Reordered.refl item) (ReorderedItems.refl items)

theorem ReorderedFields.refl : ∀ fields : List (String × Json), ReorderedFields fields fields
  | [] => .nil
  | (_, value) :: fields => .cons (Reordered.refl value) (ReorderedFields.refl fields)

end

theorem hasWhole_iff {fields : List (String × Json)} :
    HasWhole fields ↔ ∀ f ∈ fields, f.2.IsWhole := by
  induction fields with
  | nil => simp [HasWhole]
  | cons f fields ih => simp [HasWhole, ih]

mutual

theorem Reordered.isWhole : ∀ {j j' : Json}, Reordered j j' → j.IsWhole → j'.IsWhole
  | _, _, .null, whole | _, _, .bool _, whole | _, _, .nat _, whole | _, _, .number _, whole
  | _, _, .string _, whole => whole
  | _, _, .array each, whole => ReorderedItems.areWhole each whole
  | _, _, .object each order, whole => by
    have whole := hasWhole_iff.mp (ReorderedFields.hasWhole each whole)
    exact hasWhole_iff.mpr fun f mem => whole f (order.mem_iff.mpr mem)

theorem ReorderedItems.areWhole : ∀ {items items' : List Json}, ReorderedItems items items' →
    AreWhole items → AreWhole items'
  | _, _, .nil, whole => whole
  | _, _, .cons first others, whole =>
    ⟨Reordered.isWhole first whole.1, ReorderedItems.areWhole others whole.2⟩

theorem ReorderedFields.hasWhole : ∀ {fields fields' : List (String × Json)},
    ReorderedFields fields fields' → HasWhole fields → HasWhole fields'
  | _, _, .nil, whole => whole
  | _, _, .cons first others, whole =>
    ⟨Reordered.isWhole first whole.1, ReorderedFields.hasWhole others whole.2⟩

end

/-- A value has no parts. -/
def IsLeaf : Json → Prop
  | .array _ | .object _ => False
  | _ => True

@[simp] theorem isLeaf_bool (b : Bool) : (Json.bool b).IsLeaf := trivial

@[simp] theorem isLeaf_nat (n : Nat) : (Json.nat n).IsLeaf := trivial

@[simp] theorem isLeaf_string (s : String) : (Json.string s).IsLeaf := trivial

@[simp] theorem isLeaf_ofText? (s : Option String) : (Json.ofText? s).IsLeaf := by
  cases s <;> exact trivial

@[simp] theorem isLeaf_ofNat? (n : Option Nat) : (Json.ofNat? n).IsLeaf := by
  cases n <;> exact trivial

theorem Reordered.eq_of_leaf {j j' : Json} (reordered : Reordered j j') (leaf : j.IsLeaf) :
    j' = j := by
  cases reordered with
  | array | object => exact leaf.elim
  | _ => rfl

theorem ReorderedFields.eq_of_leaves {fields fields' : List (String × Json)}
    (reordered : ReorderedFields fields fields') (leaves : ∀ f ∈ fields, f.2.IsLeaf) :
    fields' = fields := by
  induction fields generalizing fields' with
  | nil =>
    cases reordered
    rfl
  | cons f fields ih =>
    cases reordered with
    | cons first others =>
      rw [first.eq_of_leaf (leaves _ List.mem_cons_self),
        ih others fun f mem => leaves f (List.mem_cons_of_mem _ mem)]

/-- The fields of an object without further parts can only change their places. -/
theorem Reordered.of_leaves {fields : List (String × Json)} {j : Json}
    (reordered : Reordered (.object fields) j) (leaves : ∀ f ∈ fields, f.2.IsLeaf) :
    ∃ fields', j = .object fields' ∧ fields.Perm fields' := by
  cases reordered with
  | object each order =>
    obtain rfl := each.eq_of_leaves leaves
    exact ⟨_, rfl, order⟩

section Values

variable {α : Type} {name : String} {read? : Json → Option α}
  {fields fields' : List (String × Json)}

/-- In another order a name has the same only value, or more than one in both. -/
theorem valuesOf_perm (name : String) (order : fields.Perm fields') :
    valuesOf name fields = valuesOf name fields' ∨
    (∃ v v' others, valuesOf name fields = v :: v' :: others) ∧
      ∃ v v' others, valuesOf name fields' = v :: v' :: others := by
  have values : (valuesOf name fields).Perm (valuesOf name fields') := order.filterMap _
  have same := values.length_eq
  rcases found : valuesOf name fields with _ | ⟨v, _ | ⟨v', others⟩⟩
  · rw [found] at values
    exact .inl values.nil_eq
  · rw [found] at values
    exact .inl (List.singleton_perm.mp values)
  · right
    refine ⟨⟨v, v', others, rfl⟩, ?_⟩
    rw [found] at same
    match valuesOf name fields', same with
    | w :: w' :: more, _ => exact ⟨w, w', more, rfl⟩

theorem required?_perm (order : fields.Perm fields') :
    required? name read? fields = required? name read? fields' := by
  unfold required?
  obtain same | ⟨⟨v, v', others, several⟩, w, w', more, several'⟩ := valuesOf_perm name order
  · rw [same]
  · rw [several, several']

theorem absentOr?_perm (order : fields.Perm fields') :
    absentOr? name read? fields = absentOr? name read? fields' := by
  unfold absentOr?
  obtain same | ⟨⟨v, v', others, several⟩, w, w', more, several'⟩ := valuesOf_perm name order
  · rw [same]
  · rw [several, several']

theorem required?_of_only {value : Json} (only : valuesOf name fields = [value]) :
    required? name read? fields = read? value := by
  rw [required?, only]

theorem absentOr?_of_text (s : Option String) (only : valuesOf name fields = [.ofText? s]) :
    absentOr? name string? fields = some s := by
  rw [absentOr?, only]
  cases s <;> rfl

end Values

end Json

namespace Draft

open Json (IsLeaf)

theorem ofFields_append (fields fields' : List (String × Json)) :
    ofFields (fields ++ fields') = ofFields fields ++ ofFields fields' := by
  induction fields with
  | nil => rfl
  | cons f fields ih => exact congrArg (_ :: ·) ih

theorem settle_of_leaf {j : Json} (depth : Nat) (leaf : j.IsLeaf) :
    (ofJson j).settle depth = .ok j := by
  cases j with
  | array | object => exact leaf.elim
  | _ => rfl

theorem settleFields_of_leaves {fields : List (String × Json)} (depth : Nat)
    (leaves : ∀ f ∈ fields, f.2.IsLeaf) : settleFields depth (ofFields fields) = .ok fields := by
  induction fields with
  | nil => rfl
  | cons f fields ih =>
    have first := settle_of_leaf depth (leaves f List.mem_cons_self)
    have others := ih fun f mem => leaves f (List.mem_cons_of_mem _ mem)
    simp only [ofFields, settleFields, bind, Except.bind, first, others]
    rfl

theorem readTagged_single (name : String) (value : Json) :
    (ofJson (.object [(name, value)])).readTagged =
      .ok { word := name, payload := some (ofJson value) } := rfl

section Fields

variable {σ : Type} {field : σ → String → Option (Draft → Except Fault σ)}

/-- Reads one more field, if those before it could be read. -/
def readNext (field : σ → String → Option (Draft → Except Fault σ)) (state : Except Fault σ)
    (f : String × Json) : Except Fault σ :=
  state.bind fun s => readFields field s (ofFields [f]) .closed

theorem readNext_of_known {s : σ} {name : String} {value : Json} {read : Draft → Except Fault σ}
    (known : field s name = some read) :
    readNext field (.ok s) (name, value) = read (ofJson value) := by
  simp only [readNext, Except.bind, ofFields, readFields, bind, known]
  cases read (ofJson value) <;> rfl

theorem foldl_readNext_error (f : Fault) (fields : List (String × Json)) :
    fields.foldl (readNext field) (.error f) = .error f := by
  induction fields with
  | nil => rfl
  | cons _ _ ih => exact ih

theorem readFields_cons (s : σ) (f : String × Json) (fields : List (String × Json)) :
    readFields field s (ofFields (f :: fields)) .closed =
      (readNext field (.ok s) f).bind fun s => readFields field s (ofFields fields) .closed := by
  obtain ⟨name, value⟩ := f
  simp only [readNext, Except.bind, ofFields, readFields, bind]
  cases field s name with
  | none => cases (ofJson value).skip? <;> rfl
  | some read =>
    dsimp only
    cases read (ofJson value) <;> rfl

theorem readFields_eq_foldl (fields : List (String × Json)) (s : σ) :
    readFields field s (ofFields fields) .closed = fields.foldl (readNext field) (.ok s) := by
  induction fields generalizing s with
  | nil => rfl
  | cons f fields ih =>
    rw [readFields_cons, List.foldl_cons]
    cases readNext field (.ok s) f with
    | error f => exact (foldl_readNext_error f fields).symm
    | ok s => exact ih s

/-- Two fields can be read in either order. -/
def Swaps (field : σ → String → Option (Draft → Except Fault σ)) (x y : String × Json) : Prop :=
  ∀ s, readNext field (readNext field (.ok s) x) y = readNext field (readNext field (.ok s) y) x

/-- Fields that can change places in pairs can be read in any order. -/
theorem readFields_perm {fields fields' : List (String × Json)} (order : fields.Perm fields')
    (swaps : fields.Pairwise (Swaps field)) (s : σ) :
    readFields field s (ofFields fields) .closed =
      readFields field s (ofFields fields') .closed := by
  have back : fields.Pairwise (flip (Swaps field)) := swaps.imp fun swap s => (swap s).symm
  have all := swaps.forall_of_forall_of_flip (fun _ _ _ => rfl) back
  rw [readFields_eq_foldl, readFields_eq_foldl]
  refine order.foldl_eq' (fun x memx y memy state => ?_) _
  cases state with
  | error => rfl
  | ok s => exact all memx memy s

/-- A field fills a place of its own in a record, unless that is filled already. -/
def Fills (field : σ → String → Option (Draft → Except Fault σ)) (f : String × Json)
    (isFilled : σ → Bool) (fill : σ → σ) : Prop :=
  ∀ s, readNext field (.ok s) f = if isFilled s then .error .mismatch else .ok (fill s)

theorem Fills.swaps {x y : String × Json} {isFilled isFilled' : σ → Bool} {fill fill' : σ → σ}
    (fills : Fills field x isFilled fill) (fills' : Fills field y isFilled' fill')
    (apart : ∀ s, isFilled (fill' s) = isFilled s) (apart' : ∀ s, isFilled' (fill s) = isFilled' s)
    (together : ∀ s, fill' (fill s) = fill (fill' s)) : Swaps field x y := by
  intro s
  rw [fills s, fills' s]
  by_cases here : isFilled s
  · rw [if_pos here]
    by_cases here' : isFilled' s
    · rw [if_pos here']
      rfl
    · rw [if_neg here', fills, apart, if_pos here]
      rfl
  · rw [if_neg here, fills', apart']
    by_cases here' : isFilled' s
    · rw [if_pos here', if_pos here']
      rfl
    · rw [if_neg here', if_neg here', fills, apart, if_neg here, together]

end Fields

end Draft
end MediaPlayback
