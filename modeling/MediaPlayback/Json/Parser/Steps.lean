import MediaPlayback.Json.Parser

/-! How many steps it takes to read a text. Whatever is read, what it leaves is no longer than the
text, and behind every bracket, comma and name it is shorter. So three steps for each character are
enough, and beyond those that `fuelFor` counts further steps change nothing (`value_eq_draft`). -/

namespace MediaPlayback.Json

theorem length_skipBlanks_le (cs : List Char) : (skipBlanks cs).length ≤ cs.length :=
  (List.dropWhile_sublist isBlank).length_le

theorem length_lt_of_skipBlanks {cs rest : List Char} {c : Char} (h : skipBlanks cs = c :: rest) :
    rest.length < cs.length := by
  have := length_skipBlanks_le cs
  rw [h, List.length_cons] at this
  omega

theorem length_le_of_skipBlanks {cs cs' rest : List Char} (h : skipBlanks cs = cs')
    (le : rest.length ≤ cs'.length) : rest.length ≤ cs.length := by
  subst h
  exact Nat.le_trans le (length_skipBlanks_le cs)

theorem length_of_word {value : Draft} {left cs rest : List Char}
    (h : (word value left cs).2 = some rest) : rest.length ≤ cs.length := by
  fun_induction word value left cs <;> grind

namespace Quotation

theorem rest_fault (f : Fault) : (fault f).rest = .error f := rfl

theorem rest_prepend (bytes : List UInt8) (q : Quotation) : (q.prepend bytes).rest = q.rest := rfl

theorem rest_cons (c : Char) (q : Quotation) : (q.cons c).rest = q.rest := rfl

theorem rest_unreadable (f : Fault) (q : Quotation) : (q.unreadable f).rest = q.rest := rfl

end Quotation

theorem length_of_quotation {cs rest : List Char} (h : (quotation cs).rest = .ok rest) :
    rest.length ≤ cs.length := by
  fun_induction quotation cs <;>
    simp only [Quotation.rest_fault, Quotation.rest_prepend, Quotation.rest_cons,
      Quotation.rest_unreadable, reduceCtorEq, List.length_cons, Except.ok.injEq] at * <;>
    grind

theorem length_of_quotedDraft {cs rest : List Char} (h : (quotedDraft cs).2 = some rest) :
    rest.length ≤ cs.length := by
  unfold quotedDraft at h
  dsimp only at h
  split at h <;> simp only [reduceCtorEq, Option.some.injEq] at h
  all_goals
    subst h
    apply length_of_quotation
    assumption

theorem length_of_fieldName {cs rest : List Char} {name : Except Fault String}
    (h : fieldName cs = .ok (name, rest)) : rest.length ≤ cs.length := by
  unfold fieldName at h
  dsimp only at h
  split at h <;> simp only [reduceCtorEq, Except.ok.injEq, Prod.mk.injEq] at h
  obtain ⟨-, rfl⟩ := h
  apply length_of_quotation
  assumption

namespace Numeral

theorem length_dropDigits_le (cs : List Char) : (cs.dropWhile Char.isDigit).length ≤ cs.length :=
  (List.dropWhile_sublist Char.isDigit).length_le

theorem rest_lacksDigit (cs : List Char) : (lacksDigit cs).rest = .error .malformed := rfl

theorem rest_fault : fault.rest = .error .malformed := rfl

theorem rest_real (literal : List Char) (s : Except Fault Scaled) (cs : List Char) :
    (real literal s cs).rest = .ok cs := rfl

theorem length_of_exponent {literal : List Char} {s : Scaled} {cs rest : List Char}
    (h : (exponent literal s cs).rest = .ok rest) : rest.length ≤ cs.length := by
  unfold exponent at h
  split at h
  · split at h
    · split at h
      dsimp only at h
      split at h
      · simp [rest_lacksDigit] at h
      · rename_i sign _
        split at sign <;> grind [rest_real, length_dropDigits_le]
    · grind [rest_real]
  · grind [rest_real]

theorem length_of_afterWhole {negative : Bool} {digits cs rest : List Char}
    (h : (afterWhole negative digits cs).rest = .ok rest) : rest.length ≤ cs.length := by
  unfold afterWhole at h
  dsimp only at h
  split at h
  · split at h
    · simp [rest_lacksDigit] at h
    · have := length_of_exponent h
      grind [length_dropDigits_le]
  · split at h
    · exact length_of_exponent h
    · split at h <;> grind [rest_real]
  · split at h <;> grind [rest_real]

theorem length_of_unsigned {negative : Bool} {cs rest : List Char}
    (h : (unsigned negative cs).rest = .ok rest) : rest.length ≤ cs.length := by
  unfold unsigned at h
  split at h
  · split at h
    · simp [rest_fault] at h
    · exact Nat.le_succ_of_le (length_of_afterWhole h)
  · split at h
    · exact Nat.le_succ_of_le (Nat.le_trans (length_of_afterWhole h) (length_dropDigits_le _))
    · simp [rest_fault] at h
  · simp [rest_lacksDigit] at h

end Numeral

theorem length_of_numeral {cs rest : List Char} (h : (numeral cs).rest = .ok rest) :
    rest.length ≤ cs.length := by
  unfold numeral at h
  split at h
  · exact Nat.le_succ_of_le (Numeral.length_of_unsigned h)
  · exact Numeral.length_of_unsigned h

theorem length_of_numeralDraft {cs rest : List Char} (h : (numeralDraft cs).2 = some rest) :
    rest.length ≤ cs.length := by
  unfold numeralDraft at h
  dsimp only at h
  split at h <;> simp only [reduceCtorEq, Option.some.injEq] at h
  all_goals
    subst h
    apply length_of_numeral
    assumption

/-- What is left of a text is never longer than the text. -/
structure Shortens (fuel : Nat) : Prop where
  value : ∀ {cs rest : List Char}, (value fuel cs).2 = some rest → rest.length ≤ cs.length
  firstItem : ∀ {cs rest : List Char},
    (firstItem fuel cs).2.2 = some rest → rest.length ≤ cs.length
  item : ∀ {cs rest : List Char}, (item fuel cs).2.2 = some rest → rest.length ≤ cs.length
  firstField : ∀ {cs rest : List Char},
    (firstField fuel cs).2.2 = some rest → rest.length ≤ cs.length
  field : ∀ {cs rest : List Char}, (field fuel cs).2.2 = some rest → rest.length ≤ cs.length

theorem shortens (fuel : Nat) : Shortens fuel := by
  induction fuel with
  | zero => constructor <;> simp [value, firstItem, item, firstField, field]
  | succ fuel ih =>
    constructor
    · intro cs rest h
      unfold value at h
      split at h
      · simp at h
      · rename_i blanks
        exact length_le_of_skipBlanks blanks (Nat.le_succ_of_le (length_of_word h))
      · rename_i blanks
        exact length_le_of_skipBlanks blanks (Nat.le_succ_of_le (length_of_word h))
      · rename_i blanks
        exact length_le_of_skipBlanks blanks (Nat.le_succ_of_le (length_of_word h))
      · rename_i blanks
        exact length_le_of_skipBlanks blanks (Nat.le_succ_of_le (length_of_quotedDraft h))
      · rename_i blanks
        exact length_le_of_skipBlanks blanks (Nat.le_succ_of_le (ih.firstItem h))
      · rename_i blanks
        exact length_le_of_skipBlanks blanks (Nat.le_succ_of_le (ih.firstField h))
      · rename_i blanks
        split at h
        · exact length_le_of_skipBlanks blanks (length_of_numeralDraft h)
        · simp at h
    · intro cs rest h
      unfold firstItem at h
      split at h
      · simp at h
      · rename_i blanks
        obtain rfl := Option.some.inj h
        exact length_le_of_skipBlanks blanks (Nat.le_succ _)
      · exact Nat.le_trans (ih.item h) (length_skipBlanks_le cs)
    · intro cs rest h
      unfold item at h
      split at h
      · simp at h
      · rename_i read
        refine Nat.le_trans ?_ (ih.value (congrArg Prod.snd read))
        split at h
        · simp at h
        · rename_i blanks
          obtain rfl := Option.some.inj h
          exact length_le_of_skipBlanks blanks (Nat.le_succ _)
        · rename_i blanks
          refine length_le_of_skipBlanks blanks (Nat.le_succ_of_le ?_)
          split at h
          · simp at h
          · simp at h
          · exact Nat.le_trans (ih.item h) (length_skipBlanks_le _)
        · simp at h
    · intro cs rest h
      unfold firstField at h
      split at h
      · simp at h
      · rename_i blanks
        obtain rfl := Option.some.inj h
        exact length_le_of_skipBlanks blanks (Nat.le_succ _)
      · rename_i blanks
        exact length_le_of_skipBlanks blanks (Nat.le_succ_of_le (ih.field h))
      · simp at h
    · intro cs rest h
      unfold field at h
      split at h
      · simp at h
      · rename_i name
        refine Nat.le_trans ?_ (length_of_fieldName name)
        split at h
        · simp at h
        · rename_i blanks
          refine length_le_of_skipBlanks blanks (Nat.le_succ_of_le ?_)
          split at h
          · simp at h
          · rename_i read
            refine Nat.le_trans ?_ (ih.value (congrArg Prod.snd read))
            split at h
            · simp at h
            · rename_i blanks
              obtain rfl := Option.some.inj h
              exact length_le_of_skipBlanks blanks (Nat.le_succ _)
            · rename_i blanks
              refine length_le_of_skipBlanks blanks (Nat.le_succ_of_le ?_)
              split at h
              · simp at h
              · rename_i blanks
                exact length_le_of_skipBlanks blanks (Nat.le_succ_of_le (ih.field h))
              · simp at h
            · simp at h
        · simp at h

/-- One more step changes nothing for texts that are short enough for so many steps. -/
structure Suffices (fuel : Nat) : Prop where
  value : ∀ {cs}, 3 * cs.length + 1 ≤ fuel → value (fuel + 1) cs = value fuel cs
  firstItem : ∀ {cs}, 3 * cs.length + 3 ≤ fuel → firstItem (fuel + 1) cs = firstItem fuel cs
  item : ∀ {cs}, 3 * cs.length + 2 ≤ fuel → item (fuel + 1) cs = item fuel cs
  firstField : ∀ {cs},
    3 * cs.length + 3 ≤ fuel → firstField (fuel + 1) cs = firstField fuel cs
  field : ∀ {cs}, 3 * cs.length + 2 ≤ fuel → field (fuel + 1) cs = field fuel cs

theorem suffices_of_length (fuel : Nat) : Suffices fuel := by
  induction fuel with
  | zero => constructor <;> intros <;> omega
  | succ fuel ih =>
    constructor
    · intro cs enough
      rw [value, value]
      split <;> try rfl
      · rename_i blanks
        have := length_lt_of_skipBlanks blanks
        rw [ih.firstItem (by omega)]
      · rename_i blanks
        have := length_lt_of_skipBlanks blanks
        rw [ih.firstField (by omega)]
    · intro cs enough
      rw [firstItem, firstItem]
      split <;> try rfl
      have := length_skipBlanks_le cs
      exact ih.item (by omega)
    · intro cs enough
      rw [item, item, ih.value (by omega)]
      split <;> try rfl
      rename_i read
      have := (shortens fuel).value (congrArg Prod.snd read)
      split <;> try rfl
      rename_i rest blanks
      have := length_lt_of_skipBlanks blanks
      have := length_skipBlanks_le rest
      split <;> try rfl
      rw [ih.item (by omega)]
    · intro cs enough
      rw [firstField, firstField]
      split <;> try rfl
      rename_i blanks
      have := length_lt_of_skipBlanks blanks
      exact ih.field (by omega)
    · intro cs enough
      rw [field, field]
      split <;> try rfl
      rename_i name
      have := length_of_fieldName name
      split <;> try rfl
      rename_i blanks
      have := length_lt_of_skipBlanks blanks
      rw [ih.value (by omega)]
      split <;> try rfl
      rename_i read
      have := (shortens fuel).value (congrArg Prod.snd read)
      split <;> try rfl
      rename_i blanks
      have := length_lt_of_skipBlanks blanks
      split <;> try rfl
      rename_i blanks
      have := length_lt_of_skipBlanks blanks
      rw [ih.field (by omega)]

/-- A text is read with any number of steps from `fuelFor` on as it is with these. -/
theorem value_eq_draft {fuel : Nat} {cs : List Char} (enough : fuelFor cs ≤ fuel) :
    value fuel cs = draft cs := by
  induction enough with
  | refl => rfl
  | step enough ih =>
    rw [← ih]
    apply (suffices_of_length _).value
    simp only [fuelFor, Nat.le_eq] at enough
    omega

end MediaPlayback.Json
