import MediaPlayback.Json.Draft
import MediaPlayback.Text.Hexadecimal

/-! Texts in quotes. A text that holds JSON comes as bytes, and each byte is seen here as the
character of its number: the marks of JSON are ASCII characters, and other characters occur only
inside quotes, where the bytes are put together again. A text in quotes that goes wrong may still be
passed over: a reader that does so checks that escapes are complete, but neither that surrogates come
in pairs nor that the bytes are those of characters. -/

namespace MediaPlayback.Json

/-- Bytes, each as the character of its number. -/
def byteChars (bytes : List UInt8) : List Char := bytes.map Char.ofUInt8

/-- The text of bytes, if they are those of characters. -/
def textOfBytes? (bytes : List UInt8) : Option String := String.fromUTF8? ⟨bytes.toArray⟩

/-- What comes of a text in quotes: the bytes of what it says, and what follows it. -/
structure Quotation where
  content : Except Fault (List UInt8)
  rest : Except Fault (List Char)
deriving Repr

namespace Quotation

/-- A quotation that can be neither read nor passed over. -/
def fault (f : Fault) : Quotation := ⟨.error f, .error f⟩

/-- The quotation with bytes in front. -/
def prepend (bytes : List UInt8) (q : Quotation) : Quotation :=
  { q with content := q.content.map (bytes ++ ·) }

/-- The quotation with a character in front. -/
def cons (c : Char) (q : Quotation) : Quotation := q.prepend (String.utf8EncodeChar c)

/-- The quotation, if its beginning cannot be read. -/
def unreadable (f : Fault) (q : Quotation) : Quotation := { q with content := .error f }

def text (q : Quotation) : Except Fault String := do
  match textOfBytes? (← q.content) with
  | some s => return s
  | none => throw .malformed

end Quotation

/-- The character that a backslash and a letter stand for. -/
def escapedChar? : Char → Option Char
  | '"' => some '"'
  | '\\' => some '\\'
  | '/' => some '/'
  | 'b' => some (Char.ofNat 8)
  | 'f' => some (Char.ofNat 12)
  | 'n' => some '\n'
  | 'r' => some '\r'
  | 't' => some '\t'
  | _ => none

/-- The unit of 16 bits that four hexadecimal digits stand for. -/
def codeUnit? (a b c d : Char) : Option Nat := hexValue? [a, b, c, d]

def isHighSurrogate (n : Nat) : Bool := 0xD800 ≤ n && n < 0xDC00

def isLowSurrogate (n : Nat) : Bool := 0xDC00 ≤ n && n < 0xE000

/-- The character of a pair of surrogates. -/
def pairedChar (high low : Nat) : Char :=
  Char.ofNat (0x10000 + (high - 0xD800) * 0x400 + (low - 0xDC00))

/-- The fault of a high surrogate that is not followed by an escape of four digits. -/
def unpaired : List Char → Fault
  | [] | ['\\'] => .truncated
  | '\\' :: 'u' :: _ :: _ :: _ :: _ :: _ => .malformed
  | '\\' :: 'u' :: _ => .truncated
  | _ => .malformed

/-- Reads what follows an opening quote. -/
def quotation : List Char → Quotation
  | [] => .fault .truncated
  | '"' :: rest => ⟨.ok [], .ok rest⟩
  | '\\' :: 'u' :: a :: b :: c :: d :: rest =>
    match codeUnit? a b c d with
    | none => .fault .malformed
    | some high =>
      if isLowSurrogate high then (quotation rest).unreadable .malformed
      else if isHighSurrogate high then
        match rest with
        | '\\' :: 'u' :: e :: f :: g :: h :: rest' =>
          match codeUnit? e f g h with
          | none => .fault .malformed
          | some low =>
            if isLowSurrogate low then (quotation rest').cons (pairedChar high low)
            else (quotation ('\\' :: 'u' :: e :: f :: g :: h :: rest')).unreadable .malformed
        | rest => (quotation rest).unreadable (unpaired rest)
      else (quotation rest).cons (Char.ofNat high)
  | '\\' :: 'u' :: _ => .fault .truncated
  | ['\\'] => .fault .truncated
  | '\\' :: c :: rest =>
    match escapedChar? c with
    | some c => (quotation rest).cons c
    | none => .fault .malformed
  | c :: rest => if c.toNat < 32 then .fault .malformed else (quotation rest).prepend [c.toUInt8]

end MediaPlayback.Json
