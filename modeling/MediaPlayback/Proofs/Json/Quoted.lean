import MediaPlayback.Json.Quoted
import MediaPlayback.Json.Basic

/-! Texts in quotes that were written are read back as they were: what stands for itself, what is
escaped by a letter, and what is escaped by its number. -/

namespace MediaPlayback.Json

/-- Characters as a reader of their bytes sees them. -/
def seen (cs : List Char) : List Char := byteChars (cs.flatMap String.utf8EncodeChar)

section Seen

variable {c : Char} {cs : List Char}

theorem seen_append (cs rest : List Char) : seen (cs ++ rest) = seen cs ++ seen rest := by
  simp [seen, byteChars]

theorem utf8EncodeChar_ascii (ascii : c.toNat < 128) : String.utf8EncodeChar c = [c.toUInt8] := by
  have small : c.val ≤ 127 := UInt32.le_iff_toNat_le.mpr (Nat.le_of_lt_succ ascii)
  rw [String.utf8EncodeChar_eq_singleton (Char.utf8Size_eq_one_iff.mpr small), Char.toUInt8_val]

theorem toNat_ofUInt8 (b : UInt8) : (Char.ofUInt8 b).toNat = b.toNat := UInt8.toNat_toUInt32 b

theorem toNat_toUInt8 (c : Char) : c.toUInt8.toNat = c.toNat % 256 := UInt32.toNat_toUInt8 c.val

theorem toUInt8_ofUInt8 (b : UInt8) : (Char.ofUInt8 b).toUInt8 = b := by
  apply UInt8.toNat.inj
  rw [toNat_toUInt8, toNat_ofUInt8]
  exact Nat.mod_eq_of_lt b.toNat_lt

theorem ofUInt8_toUInt8 (ascii : c.toNat < 128) : Char.ofUInt8 c.toUInt8 = c := by
  apply Char.ext
  apply UInt32.toNat.inj
  change (Char.ofUInt8 c.toUInt8).toNat = c.toNat
  rw [toNat_ofUInt8, toNat_toUInt8]
  omega

theorem seen_cons (ascii : c.toNat < 128) : seen (c :: cs) = c :: seen cs := by
  simp [seen, byteChars, utf8EncodeChar_ascii ascii, ofUInt8_toUInt8 ascii]

theorem seen_of_ascii (ascii : ∀ c ∈ cs, c.toNat < 128) : seen cs = cs := by
  induction cs with
  | nil => rfl
  | cons c cs ih =>
    rw [seen_cons (ascii c List.mem_cons_self),
      ih fun c mem => ascii c (List.mem_cons_of_mem _ mem)]

/-- The bytes of a character that is not ASCII are above those of ASCII. -/
theorem le_of_mem_utf8EncodeChar {b : UInt8} (wide : 128 ≤ c.toNat)
    (mem : b ∈ String.utf8EncodeChar c) : 128 ≤ b.toNat := by
  have large : ¬ c.val.toNat ≤ 127 := Nat.not_le_of_lt wide
  simp only [String.utf8EncodeChar, if_neg large] at mem
  split at mem
  all_goals try split at mem
  all_goals
    simp only [List.mem_cons, List.not_mem_nil, or_false] at mem
    rcases mem with rfl | rfl | rfl | rfl <;> simp <;> omega

end Seen

section Quotation

variable {c : Char} {rest : List Char}

theorem quotation_of_plain (quote : c ≠ '"') (backslash : c ≠ '\\') (printable : 32 ≤ c.toNat) :
    quotation (c :: rest) = (quotation rest).prepend [c.toUInt8] := by
  rw [quotation]
  · rw [if_neg (Nat.not_lt_of_le printable)]
  all_goals grind

/-- Bytes above those of ASCII are kept as they are. -/
theorem quotation_byteChars {bytes : List UInt8} (wide : ∀ b ∈ bytes, 128 ≤ b.toNat) :
    quotation (byteChars bytes ++ rest) = (quotation rest).prepend bytes := by
  induction bytes with
  | nil =>
    change quotation rest = _
    rcases quotation rest with ⟨content | content, after⟩ <;> rfl
  | cons b bytes ih =>
    have large : 128 ≤ b.toNat := wide b List.mem_cons_self
    have other {c : Char} (ascii : c.toNat < 128) : Char.ofUInt8 b ≠ c := by
      rintro rfl
      rw [toNat_ofUInt8] at ascii
      omega
    have printable : 32 ≤ (Char.ofUInt8 b).toNat := by
      rw [toNat_ofUInt8]
      omega
    change quotation (Char.ofUInt8 b :: (byteChars bytes ++ rest)) = _
    rw [quotation_of_plain (other (by decide)) (other (by decide)) printable, toUInt8_ofUInt8,
      ih fun b mem => wide b (List.mem_cons_of_mem _ mem)]
    rcases quotation rest with ⟨content | content, after⟩ <;> rfl

theorem codeUnit?_hexDigit : ∀ n < 32,
    codeUnit? '0' '0' (hexDigit (n / 16)) (hexDigit (n % 16)) = some n := by
  decide +kernel

theorem hexDigit_ascii : ∀ n < 16, (hexDigit n).toNat < 128 := by
  decide +kernel

theorem quotation_of_letter {letter : Char} (written : escaped c = ['\\', letter])
    (ascii : letter.toNat < 128) (meant : escapedChar? letter = some c) :
    quotation (seen (escaped c) ++ rest) = (quotation rest).cons c := by
  have other : letter ≠ 'u' := by
    rintro rfl
    cases meant
  have same : seen ['\\', letter] = ['\\', letter] := by
    rw [seen_cons (by decide), seen_cons ascii]
    rfl
  rw [written, same]
  change quotation ('\\' :: letter :: rest) = _
  rw [quotation]
  · rw [meant]
  all_goals grind

/-- A control character that no letter stands for is read back from its number. -/
theorem quotation_of_number (control : c.toNat < 32) (written : escaped c =
      ['\\', 'u', '0', '0', hexDigit (c.toNat / 16), hexDigit (c.toNat % 16)]) :
    quotation (seen (escaped c) ++ rest) = (quotation rest).cons c := by
  have low : isLowSurrogate c.toNat = false := by simp [isLowSurrogate]; omega
  have high : isHighSurrogate c.toNat = false := by simp [isHighSurrogate]; omega
  have same : seen (escaped c) = escaped c := seen_of_ascii fun d mem => by
    simp only [written, List.mem_cons, List.not_mem_nil, or_false] at mem
    rcases mem with rfl | rfl | rfl | rfl | rfl | rfl
    case inr.inr.inr.inr.inl => exact hexDigit_ascii _ (by omega)
    case inr.inr.inr.inr.inr => exact hexDigit_ascii _ (by omega)
    all_goals decide
  rw [same, written]
  simp [quotation, codeUnit?_hexDigit _ control, low, high]

/-- The characters that are escaped by a letter. -/
def lettered : List Char := ['"', '\\', Char.ofNat 8, '\t', '\n', Char.ofNat 12, '\r']

/-- What is written for a character is read as the character. -/
theorem quotation_escaped : quotation (seen (escaped c) ++ rest) = (quotation rest).cons c := by
  by_cases letter : c ∈ lettered
  · simp only [lettered, List.mem_cons, List.not_mem_nil, or_false] at letter
    rcases letter with rfl | rfl | rfl | rfl | rfl | rfl | rfl
    all_goals exact quotation_of_letter rfl (by decide) rfl
  have unlettered {n : Nat} (control : Char.ofNat n ∈ lettered) : c.toNat ≠ n := by
    rintro rfl
    rw [Char.ofNat_toNat] at control
    exact letter control
  have quote : c ≠ '"' := fun same => letter (by simp [same, lettered])
  have backslash : c ≠ '\\' := fun same => letter (by simp [same, lettered])
  have written : escaped c = if c.toNat < 32 then
      ['\\', 'u', '0', '0', hexDigit (c.toNat / 16), hexDigit (c.toNat % 16)] else [c] := by
    simp only [escaped, if_neg quote, if_neg backslash, if_neg (unlettered (n := 8) (by decide)),
      if_neg (unlettered (n := 9) (by decide)), if_neg (unlettered (n := 10) (by decide)),
      if_neg (unlettered (n := 12) (by decide)), if_neg (unlettered (n := 13) (by decide))]
  by_cases control : c.toNat < 32
  · exact quotation_of_number control (written.trans (if_pos control))
  have printable : 32 ≤ c.toNat := Nat.le_of_not_lt control
  rw [written, if_neg control]
  by_cases ascii : c.toNat < 128
  · rw [seen_cons ascii]
    change quotation (c :: rest) = _
    rw [quotation_of_plain quote backslash printable, Quotation.cons, utf8EncodeChar_ascii ascii]
  · have bytes : seen [c] = byteChars (String.utf8EncodeChar c) := by simp [seen]
    rw [bytes, quotation_byteChars fun b => le_of_mem_utf8EncodeChar (Nat.le_of_not_lt ascii)]
    rfl

/-- A text in quotes is read as the text. -/
theorem quotation_quoted (s : String) :
    quotation (seen (s.toList.flatMap escaped) ++ '"' :: rest) =
      ⟨.ok (s.toList.flatMap String.utf8EncodeChar), .ok rest⟩ := by
  induction s.toList with
  | nil => rw [List.flatMap_nil, seen_of_ascii (by simp), List.nil_append, quotation]; rfl
  | cons c cs ih =>
    rw [List.flatMap_cons, seen_append, List.append_assoc, quotation_escaped, ih]
    rfl

theorem textOfBytes?_utf8 (s : String) :
    textOfBytes? (s.toList.flatMap String.utf8EncodeChar) = some s := by
  have whole : ⟨(s.toList.flatMap String.utf8EncodeChar).toArray⟩ = s.toByteArray := by
    rw [← String.utf8Encode_toList]
    exact ByteArray.ext List.data_toByteArray.symm
  rw [textOfBytes?, whole, String.fromUTF8?, dif_pos s.isValidUTF8]
  rfl

theorem quotation_text (s : String) :
    (quotation (seen (s.toList.flatMap escaped) ++ '"' :: rest)).text = .ok s := by
  rw [quotation_quoted, Quotation.text]
  simp only [bind, Except.bind, textOfBytes?_utf8]
  rfl

end Quotation

end MediaPlayback.Json
