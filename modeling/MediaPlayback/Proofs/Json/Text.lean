import MediaPlayback.Json.Parser.Steps
import MediaPlayback.Proofs.Json.Quoted

/-! The text of a value is read as the value, if all its numbers are whole numbers of 64 bits. -/

namespace MediaPlayback.Json

/-- What may follow a value: the end of the text, a comma or a closing bracket. -/
def Ends (rest : List Char) : Prop := ∀ c ∈ rest.head?, c = ',' ∨ c = ']' ∨ c = '\x7d'

namespace Numeral

variable {n : Nat} {c : Char} {cs rest : List Char}

theorem digitValue_digitChar : ∀ n < 10, digitValue n.digitChar = n := by decide

theorem digit_of_fits {s : Scaled} (small : s.exponent = 0)
    (fits : s.whole * 10 + digitValue c ≤ maxWhole) :
    s.digit c = ⟨s.whole * 10 + digitValue c, 0⟩ := by
  simp [Scaled.digit, small, fits]

theorem foldl_digit (fits : n ≤ maxWhole) : (Nat.toDigits 10 n).foldl Scaled.digit {} = ⟨n, 0⟩ := by
  induction n using Nat.strongRecOn with
  | ind n ih =>
    by_cases small : n < 10
    · have value := digitValue_digitChar n small
      rw [Nat.toDigits_of_lt_base small, List.foldl_cons, List.foldl_nil, digit_of_fits rfl]
      · simp [value]
      · simpa [value] using fits
    · have value := digitValue_digitChar (n % 10) (Nat.mod_lt _ (by decide))
      have split : n / 10 * 10 + n % 10 = n := Nat.div_add_mod' n 10
      rw [Nat.toDigits_of_base_le (by decide) (Nat.le_of_not_lt small), List.foldl_append,
        ih (n / 10) (by omega) (by omega), List.foldl_cons, List.foldl_nil, digit_of_fits rfl]
      · simp [value, split]
      · simpa [value, split] using fits

theorem exists_digits (n : Nat) :
    ∃ c cs, Nat.toDigits 10 n = c :: cs ∧ ∀ d ∈ c :: cs, d.isDigit = true := by
  cases digits : Nat.toDigits 10 n with
  | nil => exact absurd digits Nat.toDigits_ne_nil
  | cons c cs =>
    refine ⟨c, cs, rfl, fun d mem => ?_⟩
    exact Nat.isDigit_of_mem_toDigits (by decide) (by decide) (digits ▸ mem)

/-- Only nought begins with a zero. -/
theorem of_toDigits_zero (digits : Nat.toDigits 10 n = '0' :: cs) : n = 0 := by
  induction n using Nat.strongRecOn generalizing cs with
  | ind n ih =>
    by_cases small : n < 10
    · rw [Nat.toDigits_of_lt_base small] at digits
      exact Nat.digitChar_eq_zero.mp (List.cons.inj digits).1
    · rw [Nat.toDigits_of_base_le (by decide) (Nat.le_of_not_lt small)] at digits
      obtain ⟨first, more, cut, _⟩ := exists_digits (n / 10)
      rw [cut, List.cons_append] at digits
      obtain rfl := (List.cons.inj digits).1
      have nought := ih (n / 10) (by omega) cut
      omega

theorem afterWhole_of_ends {digits : List Char} (ends : Ends rest)
    (whole : digits.foldl Scaled.digit {} = ⟨n, 0⟩) :
    afterWhole false digits rest = ⟨.ok (.nat n), .ok rest⟩ := by
  cases rest with
  | nil => simp [afterWhole, whole]
  | cons c more =>
    rcases ends c rfl with rfl | rfl | rfl <;> simp [afterWhole, whole]

theorem isDigit_of_ends (ends : Ends (c :: rest)) : c.isDigit = false := by
  rcases ends c rfl with rfl | rfl | rfl <;> rfl

theorem takeWhile_of_ends (ends : Ends rest) : rest.takeWhile Char.isDigit = [] := by
  cases rest with
  | nil => rfl
  | cons c rest => simp [isDigit_of_ends ends]

theorem dropWhile_of_ends (ends : Ends rest) : rest.dropWhile Char.isDigit = rest := by
  cases rest with
  | nil => rfl
  | cons c rest => simp [isDigit_of_ends ends]

theorem unsigned_toDigits (fits : n ≤ maxWhole) (ends : Ends rest) :
    unsigned false (Nat.toDigits 10 n ++ rest) = ⟨.ok (.nat n), .ok rest⟩ := by
  have whole := foldl_digit fits
  obtain ⟨first, more, cut, digits⟩ := exists_digits n
  by_cases zero : first = '0'
  · subst zero
    obtain rfl := of_toDigits_zero cut
    have alone : rest.head?.any Char.isDigit = false := by
      cases rest with
      | nil => rfl
      | cons c rest => exact isDigit_of_ends ends
    change unsigned false ('0' :: rest) = _
    rw [unsigned, if_neg (by simp [alone])]
    exact afterWhole_of_ends ends whole
  · have all : ∀ c ∈ more, c.isDigit = true := fun c mem => digits c (List.mem_cons_of_mem _ mem)
    have taken : (more ++ rest).takeWhile Char.isDigit = more := by
      rw [List.takeWhile_append_of_pos all, takeWhile_of_ends ends, List.append_nil]
    have left : (more ++ rest).dropWhile Char.isDigit = rest := by
      rw [List.dropWhile_append_of_pos all, dropWhile_of_ends ends]
    rw [cut, List.cons_append, unsigned, if_pos (digits first List.mem_cons_self), taken, left,
      ← cut]
    · exact afterWhole_of_ends ends whole
    · exact zero

end Numeral

theorem numeralDraft_toDigits {n : Nat} {rest : List Char} (fits : n ≤ Numeral.maxWhole)
    (ends : Ends rest) : numeralDraft (Nat.toDigits 10 n ++ rest) = (.nat n, some rest) := by
  obtain ⟨first, more, cut, digits⟩ := Numeral.exists_digits n
  have digit : first.isDigit = true := digits first List.mem_cons_self
  have unsigned : numeral (Nat.toDigits 10 n ++ rest) =
      Numeral.unsigned false (Nat.toDigits 10 n ++ rest) := by
    rw [cut, List.cons_append, numeral]
    rintro _ minus
    obtain rfl := (List.cons.inj minus).1
    cases digit
  rw [numeralDraft, unsigned, Numeral.unsigned_toDigits fits ends]

mutual

/-- All numbers in a value are whole numbers of 64 bits. -/
def IsWhole : Json → Prop
  | .nat n => n ≤ Numeral.maxWhole
  | .number _ => False
  | .array items => AreWhole items
  | .object fields => HasWhole fields
  | _ => True

/-- All numbers in the items of an array are whole numbers of 64 bits. -/
def AreWhole : List Json → Prop
  | [] => True
  | item :: items => item.IsWhole ∧ AreWhole items

/-- All numbers in the fields of an object are whole numbers of 64 bits. -/
def HasWhole : List (String × Json) → Prop
  | [] => True
  | (_, value) :: fields => value.IsWhole ∧ HasWhole fields

end

theorem toNat_le_maxWhole (n : UInt64) : n.toNat ≤ Numeral.maxWhole :=
  Nat.le_sub_one_of_lt n.toNat_lt

theorem isWhole_ofText? (s : Option String) : (ofText? s).IsWhole := by
  cases s <;> exact trivial

/-- From some number of steps on, a run comes to `a`. -/
def Settles {α : Type} (run : Nat → α) (a : α) : Prop :=
  ∃ steps, ∀ fuel, steps ≤ fuel → run fuel = a

namespace Settles

variable {α β : Type} {run : Nat → α} {run' : Nat → β} {a : α} {b : β}

theorem of_succ (step : ∀ fuel, run (fuel + 1) = a) : Settles run a := by
  refine ⟨1, fun fuel enough => ?_⟩
  obtain ⟨fuel, rfl⟩ := Nat.exists_eq_add_of_le' enough
  exact step fuel

theorem next (settles : Settles run a) (step : ∀ fuel, run fuel = a → run' (fuel + 1) = b) :
    Settles run' b := by
  obtain ⟨steps, settled⟩ := settles
  refine ⟨steps + 1, fun fuel enough => ?_⟩
  obtain ⟨more, rfl⟩ := Nat.exists_eq_add_of_le enough
  have after := step (steps + more) (settled _ (by omega))
  rwa [show steps + 1 + more = steps + more + 1 by omega]

theorem both (settles : Settles run a) (settles' : Settles run' b) :
    Settles (fun fuel => (run fuel, run' fuel)) (a, b) := by
  obtain ⟨steps, settled⟩ := settles
  obtain ⟨steps', settled'⟩ := settles'
  refine ⟨steps + steps', fun fuel enough => ?_⟩
  exact Prod.ext (settled fuel (by omega)) (settled' fuel (by omega))

end Settles

section Value

variable {c : Char} {cs rest : List Char} {fuel : Nat}

theorem skipBlanks_cons (solid : isBlank c = false) : skipBlanks (c :: cs) = c :: cs := by
  simp [skipBlanks, solid]

theorem quotedDraft_escaped (s : String) :
    quotedDraft (seen (s.toList.flatMap escaped) ++ '"' :: rest) = (.string s, some rest) := by
  rw [quotedDraft, quotation_text, quotation_quoted]

theorem fieldName_escaped (s : String) :
    fieldName (seen (s.toList.flatMap escaped) ++ '"' :: rest) = .ok (.ok s, rest) := by
  rw [fieldName, quotation_text, quotation_quoted]

theorem seen_quoted (s : String) :
    seen (quoted s) ++ rest = '"' :: (seen (s.toList.flatMap escaped) ++ '"' :: rest) := by
  rw [quoted, List.cons_append, seen_cons (by decide), seen_append]
  simp [seen_of_ascii]

theorem seen_null : seen (chars .null) = ['n', 'u', 'l', 'l'] := seen_of_ascii (by simp [chars])

theorem seen_true : seen (chars (.bool true)) = ['t', 'r', 'u', 'e'] :=
  seen_of_ascii (by simp [chars])

theorem seen_false : seen (chars (.bool false)) = ['f', 'a', 'l', 's', 'e'] :=
  seen_of_ascii (by simp [chars])

theorem value_null : value (fuel + 1) (seen (chars .null) ++ rest) = (.null, some rest) := by
  simp [seen_null, value, skipBlanks_cons, isBlank, word]

theorem value_bool (b : Bool) :
    value (fuel + 1) (seen (chars (.bool b)) ++ rest) = (.bool b, some rest) := by
  cases b <;> simp [seen_true, seen_false, value, skipBlanks_cons, isBlank, word]

theorem value_string (s : String) :
    value (fuel + 1) (seen (chars (.string s)) ++ rest) = (.string s, some rest) := by
  rw [chars, seen_quoted]
  simp [value, skipBlanks_cons, isBlank, quotedDraft_escaped]

theorem ne_of_digit {d : Char} (digit : c.isDigit = true) (mark : d.isDigit = false) : c ≠ d := by
  rintro rfl
  cases digit.symm.trans mark

theorem solid_of_digit (digit : c.isDigit = true) : isBlank c = false := by
  simp [isBlank, ne_of_digit digit]

theorem value_of_digit (digit : c.isDigit = true) :
    value (fuel + 1) (c :: cs) = numeralDraft (c :: cs) := by
  rw [value, skipBlanks_cons (solid_of_digit digit)]
  split
  case h_8 d rest _ _ _ _ _ _ same =>
    obtain ⟨rfl, rfl⟩ := List.cons.inj same
    exact if_pos (.inr digit)
  all_goals
    rename_i same
    first
    | exact absurd same (List.cons_ne_nil _ _)
    | exact absurd (List.cons.inj same).1 (ne_of_digit digit rfl)

theorem seen_nat (n : Nat) : seen (chars (.nat n)) = Nat.toDigits 10 n := by
  refine seen_of_ascii fun c mem => ?_
  have digit : c.isDigit = true := Nat.isDigit_of_mem_toDigits (by decide) (by decide) mem
  simp only [Char.isDigit, Bool.and_eq_true, decide_eq_true_eq] at digit
  have small : c.toNat ≤ 57 := UInt32.le_iff_toNat_le.mp digit.2
  omega

theorem value_nat {n : Nat} (fits : n ≤ Numeral.maxWhole) (ends : Ends rest) :
    value (fuel + 1) (seen (chars (.nat n)) ++ rest) = (.nat n, some rest) := by
  obtain ⟨c, cs, cut, digits⟩ := Numeral.exists_digits n
  rw [seen_nat, ← numeralDraft_toDigits fits ends, cut]
  exact value_of_digit (digits c List.mem_cons_self)

theorem seen_array (items : List Json) :
    seen (chars (.array items)) ++ rest = '[' :: (seen (itemChars items) ++ ']' :: rest) := by
  rw [chars, List.cons_append, seen_cons (by decide), seen_append]
  simp [seen_of_ascii]

theorem seen_object (fields : List (String × Json)) :
    seen (chars (.object fields)) ++ rest =
      '\x7b' :: (seen (fieldChars fields) ++ '\x7d' :: rest) := by
  rw [chars, List.cons_append, seen_cons (by decide), seen_append]
  simp [seen_of_ascii]

theorem seen_items (item next : Json) (items : List Json) :
    seen (itemChars (item :: next :: items)) ++ rest =
      seen item.chars ++ ',' :: (seen (itemChars (next :: items)) ++ rest) := by
  rw [itemChars, seen_append, seen_cons (by decide)]
  · simp
  · simp

theorem seen_field (name : String) (value : Json) :
    seen (fieldChars [(name, value)]) ++ rest =
      '"' :: (seen (name.toList.flatMap escaped) ++ '"' :: ':' :: (seen value.chars ++ rest)) := by
  rw [fieldChars, seen_append, List.append_assoc, seen_quoted, seen_cons (by decide)]
  rfl

theorem seen_fields (name : String) (value : Json) (next : String × Json)
    (fields : List (String × Json)) :
    seen (fieldChars ((name, value) :: next :: fields)) ++ rest =
      '"' :: (seen (name.toList.flatMap escaped) ++ '"' :: ':' ::
        (seen value.chars ++ ',' :: (seen (fieldChars (next :: fields)) ++ rest))) := by
  rw [fieldChars, seen_append, List.append_assoc, seen_append, List.append_assoc, seen_quoted,
    seen_cons (by decide), seen_cons (by decide)]
  · simp
  · simp

/-- No value begins with a blank or with a closing bracket. -/
theorem exists_opening {j : Json} (whole : j.IsWhole) :
    ∃ c cs, seen j.chars ++ rest = c :: cs ∧ isBlank c = false ∧ c ≠ ']' := by
  cases j with
  | null => exact ⟨_, _, congrArg (· ++ rest) seen_null, by decide, by decide⟩
  | bool b =>
    cases b with
    | true => exact ⟨_, _, congrArg (· ++ rest) seen_true, by decide, by decide⟩
    | false => exact ⟨_, _, congrArg (· ++ rest) seen_false, by decide, by decide⟩
  | nat n =>
    obtain ⟨c, cs, cut, digits⟩ := Numeral.exists_digits n
    have digit : c.isDigit = true := digits c List.mem_cons_self
    refine ⟨c, cs ++ rest, congrArg (· ++ rest) ((seen_nat n).trans cut), solid_of_digit digit, ?_⟩
    exact ne_of_digit digit rfl
  | number => exact whole.elim
  | string s => exact ⟨_, _, seen_quoted s, by decide, by decide⟩
  | array items => exact ⟨_, _, seen_array items, by decide, by decide⟩
  | object fields => exact ⟨_, _, seen_object fields, by decide, by decide⟩

theorem exists_opening_items {j : Json} (whole : j.IsWhole) (items : List Json) (rest : List Char) :
    ∃ c cs, seen (itemChars (j :: items)) ++ rest = c :: cs ∧ isBlank c = false ∧ c ≠ ']' := by
  cases items with
  | nil => exact exists_opening whole
  | cons next items =>
    rw [seen_items]
    exact exists_opening whole

theorem exists_opening_fields (f : String × Json) (fields : List (String × Json))
    (rest : List Char) : ∃ cs, seen (fieldChars (f :: fields)) ++ rest = '"' :: cs := by
  cases fields with
  | nil => exact ⟨_, seen_field f.1 f.2⟩
  | cons next fields => exact ⟨_, seen_fields f.1 f.2 next fields⟩

variable {items : List Draft} {fields : List (Except Fault String × Draft)} {ending : Ending}
  {after : Rest} {draft : Draft} {name : Except Fault String}

theorem value_array (read : firstItem fuel cs = (items, ending, after)) :
    value (fuel + 1) ('[' :: cs) = (.array items ending, after) := by
  simp [value, skipBlanks_cons, isBlank, read]

theorem firstItem_closed : firstItem (fuel + 1) (']' :: rest) = ([], .closed, some rest) := by
  simp [firstItem, skipBlanks_cons, isBlank]

theorem firstItem_eq (solid : isBlank c = false) (inside : c ≠ ']') :
    firstItem (fuel + 1) (c :: cs) = item fuel (c :: cs) := by
  simp [firstItem, skipBlanks_cons, solid, inside]

theorem item_last (read : value fuel cs = (draft, some (']' :: rest))) :
    item (fuel + 1) cs = ([draft], .closed, some rest) := by
  simp [item, read, skipBlanks_cons, isBlank]

theorem item_more (read : value fuel cs = (draft, some (',' :: c :: rest)))
    (solid : isBlank c = false) (inside : c ≠ ']')
    (others : item fuel (c :: rest) = (items, ending, after)) :
    item (fuel + 1) cs = (draft :: items, ending, after) := by
  have comma : isBlank ',' = false := rfl
  simp [item, read, skipBlanks_cons, comma, solid, inside, others]

theorem value_object (read : firstField fuel cs = (fields, ending, after)) :
    value (fuel + 1) ('\x7b' :: cs) = (.object fields ending, after) := by
  simp [value, skipBlanks_cons, isBlank, read]

theorem firstField_closed : firstField (fuel + 1) ('\x7d' :: rest) = ([], .closed, some rest) := by
  simp [firstField, skipBlanks_cons, isBlank]

theorem firstField_eq : firstField (fuel + 1) ('"' :: cs) = field fuel cs := by
  simp [firstField, skipBlanks_cons, isBlank]

theorem field_last {more : List Char} (named : fieldName cs = .ok (name, ':' :: more))
    (read : value fuel more = (draft, some ('\x7d' :: rest))) :
    field (fuel + 1) cs = ([(name, draft)], .closed, some rest) := by
  simp [field, named, read, skipBlanks_cons, isBlank]

theorem field_more {more : List Char} (named : fieldName cs = .ok (name, ':' :: more))
    (read : value fuel more = (draft, some (',' :: '"' :: rest)))
    (others : field fuel rest = (fields, ending, after)) :
    field (fuel + 1) cs = ((name, draft) :: fields, ending, after) := by
  simp [field, named, read, skipBlanks_cons, isBlank, others]

end Value

-- What stands behind a value only matters behind a numeral, which would go on with a digit, a point
-- or an exponent. Behind each value in brackets stands a comma or the bracket, so that this is enough
-- for the induction.
mutual

/-- The text of a value is read as the value, whatever follows it. -/
theorem value_chars : ∀ {j : Json} (rest : List Char), j.IsWhole → Ends rest →
    Settles (fun fuel => value fuel (seen j.chars ++ rest)) (.ofJson j, some rest)
  | .null, _, _, _ => .of_succ fun _ => value_null
  | .bool b, _, _, _ => .of_succ fun _ => value_bool b
  | .nat _, _, fits, ends => .of_succ fun _ => value_nat fits ends
  | .string s, _, _, _ => .of_succ fun _ => value_string s
  | .array [], rest, _, _ => by
    rw [seen_array]
    exact (Settles.of_succ fun _ => firstItem_closed).next fun _ => value_array
  | .array (item :: items), rest, whole, _ => by
    rw [seen_array]
    obtain ⟨c, cs, cut, solid, inside⟩ := exists_opening_items whole.1 items (']' :: rest)
    have settles := item_chars rest (List.cons_ne_nil item items) whole
    rw [cut] at settles ⊢
    have first : Settles (fun fuel => firstItem fuel (c :: cs))
        (Draft.ofItems (item :: items), .closed, some rest) :=
      settles.next fun _ read => (firstItem_eq solid inside).trans read
    exact first.next fun _ => value_array
  | .object [], rest, _, _ => by
    rw [seen_object]
    exact (Settles.of_succ fun _ => firstField_closed).next fun _ => value_object
  | .object (f :: fields), rest, whole, _ => by
    rw [seen_object]
    obtain ⟨cs, cut⟩ := exists_opening_fields f fields ('\x7d' :: rest)
    have settles := field_chars rest whole cut
    rw [cut]
    exact (settles.next fun _ read => firstField_eq.trans read).next fun _ => value_object

/-- The texts of items are read as the items. -/
theorem item_chars : ∀ {items : List Json} (rest : List Char), items ≠ [] → AreWhole items →
    Settles (fun fuel => item fuel (seen (itemChars items) ++ ']' :: rest))
      (Draft.ofItems items, .closed, some rest)
  | [j], rest, _, whole => by
    have ends : Ends (']' :: rest) := by rintro _ ⟨⟩; decide
    exact (value_chars _ whole.1 ends).next fun _ => item_last
  | j :: next :: items, rest, _, whole => by
    obtain ⟨c, cs, cut, solid, inside⟩ := exists_opening_items whole.2.1 items (']' :: rest)
    have settles := item_chars rest (List.cons_ne_nil next items) whole.2
    rw [cut] at settles
    have ends : Ends (',' :: c :: cs) := by rintro _ ⟨⟩; decide
    rw [seen_items, cut]
    refine ((value_chars _ whole.1 ends).both settles).next fun _ read => ?_
    obtain ⟨first, more⟩ := Prod.mk.inj read
    exact item_more first solid inside more

/-- The texts of fields are read as the fields. -/
theorem field_chars : ∀ {fields : List (String × Json)} {cs : List Char} (rest : List Char),
    HasWhole fields → seen (fieldChars fields) ++ '\x7d' :: rest = '"' :: cs →
    Settles (fun fuel => field fuel cs) (Draft.ofFields fields, .closed, some rest)
  | [], _, _, _, same => by
    cases same
  | [(name, j)], cs, rest, whole, same => by
    rw [seen_field] at same
    obtain rfl := (List.cons.inj same).2
    have ends : Ends ('\x7d' :: rest) := by rintro _ ⟨⟩; decide
    exact (value_chars _ whole.1 ends).next fun _ => field_last (fieldName_escaped name)
  | (name, j) :: next :: fields, cs, rest, whole, same => by
    obtain ⟨more, cut⟩ := exists_opening_fields next fields ('\x7d' :: rest)
    have settles := field_chars rest whole.2 cut
    rw [seen_fields, cut] at same
    obtain rfl := (List.cons.inj same).2
    have ends : Ends (',' :: '"' :: more) := by rintro _ ⟨⟩; decide
    refine ((value_chars _ whole.1 ends).both settles).next fun _ read => ?_
    obtain ⟨first, others⟩ := Prod.mk.inj read
    exact field_more (fieldName_escaped name) first others

end

/-- The text of a value is read as the value. -/
theorem draft_chars {j : Json} (whole : j.IsWhole) :
    draft (seen j.chars) = (.ofJson j, some []) := by
  have ends : Ends [] := by rintro _ ⟨⟩
  obtain ⟨steps, settled⟩ := value_chars [] whole ends
  rw [List.append_nil] at settled
  rw [← settled (steps + fuelFor (seen j.chars)) (Nat.le_add_right _ _)]
  exact (value_eq_draft (Nat.le_add_left _ _)).symm

theorem toList_loop (bytes : ByteArray) (i : Nat) (before : List UInt8) :
    ByteArray.toList.loop bytes i before = before.reverse ++ bytes.data.toList.drop i := by
  fun_induction ByteArray.toList.loop bytes i before with
  | case1 i before inside ih =>
    have there : i < bytes.data.toList.length := inside
    have byte : bytes.get! i = bytes.data.toList[i] := getElem!_pos bytes.data i inside
    rw [ih, List.drop_eq_getElem_cons there, byte, List.reverse_cons, List.append_assoc]
    rfl
  | case2 i before outside =>
    rw [List.drop_eq_nil_of_le (Nat.le_of_not_lt outside), List.append_nil]

theorem byteChars_text (j : Json) : byteChars j.text.toUTF8.toList = seen j.chars := by
  have bytes : j.text.toUTF8.toList = j.chars.flatMap String.utf8EncodeChar := by
    rw [ByteArray.toList, toList_loop, text]
    change List.drop 0 (String.ofList j.chars).toByteArray.data.toList = _
    rw [String.toByteArray_ofList, List.drop_zero]
    exact List.toList_data_toByteArray
  rw [bytes, seen]

/-- A text is read as the value that it was written for. -/
theorem read_text {α : Type} {reader : Draft → Except Fault α} {j : Json} (whole : j.IsWhole) :
    read reader j.text = reader (.ofJson j) := by
  rw [read, readBytes, byteChars_text, draft_chars whole]
  dsimp only
  cases reader (.ofJson j) <;> rfl

end MediaPlayback.Json
