import MediaPlayback.Json.Numeral
import MediaPlayback.Json.Quoted

/-! From texts to drafts. -/

namespace MediaPlayback.Json

/-- What follows a value; nothing if the text went wrong before. -/
abbrev Rest := Option (List Char)

def isBlank (c : Char) : Bool := c = ' ' || c = '\n' || c = '\t' || c = '\r'

def skipBlanks (cs : List Char) : List Char := cs.dropWhile isBlank

/-- Reads a word that begins a value; `word` is what is left of it. -/
def word (value : Draft) : List Char → List Char → Draft × Rest
  | [], cs => (value, some cs)
  | _ :: _, [] => (.broken .truncated (some .truncated), none)
  | w :: ws, c :: cs =>
    if c = w then word value ws cs else (.broken .malformed (some .malformed), none)

def quotedDraft (cs : List Char) : Draft × Rest :=
  let q := quotation cs
  match q.text, q.rest with
  | .ok s, .ok rest => (.string s, some rest)
  | .error f, .ok rest => (.brokenText f none, some rest)
  | .ok _, .error f => (.brokenText f (some f), none)
  | .error f, .error g => (.brokenText f (some g), none)

def numeralDraft (cs : List Char) : Draft × Rest :=
  let n := numeral cs
  match n.value, n.rest with
  | .ok value, .ok rest => (value, some rest)
  | .error f, .ok rest => (.broken f none, some rest)
  | .ok _, .error f => (.broken f (some f), none)
  | .error f, .error g => (.broken f (some g), none)

/-- The name of a field and what follows it, behind the opening quote. -/
def fieldName (cs : List Char) : Except Cut (Except Fault String × List Char) :=
  let q := quotation cs
  match q.rest with
  | .ok rest => .ok (q.text, rest)
  | .error skip =>
    let read := match q.content with
      | .error f => f
      | .ok _ => skip
    .error ⟨read, skip, .malformed⟩

mutual

/-- Reads a value in at most `fuel` steps. -/
def value : Nat → List Char → Draft × Rest
  | 0, _ => (.missing, none)
  | fuel + 1, cs =>
    match skipBlanks cs with
    | [] => (.missing, none)
    | 'n' :: rest => word .null ['u', 'l', 'l'] rest
    | 't' :: rest => word (.bool true) ['r', 'u', 'e'] rest
    | 'f' :: rest => word (.bool false) ['a', 'l', 's', 'e'] rest
    | '"' :: rest => quotedDraft rest
    | '[' :: rest =>
      let (items, ending, rest) := firstItem fuel rest
      (.array items ending, rest)
    | '\x7b' :: rest =>
      let (fields, ending, rest) := firstField fuel rest
      (.object fields ending, rest)
    | c :: rest =>
      if c = '-' ∨ c.isDigit then numeralDraft (c :: rest)
      else (.broken .malformed (some .malformed), none)

/-- Reads items behind an opening bracket. -/
def firstItem : Nat → List Char → List Draft × Ending × Rest
  | 0, _ => ([], .cut (.all .truncated), none)
  | fuel + 1, cs =>
    match skipBlanks cs with
    | [] => ([], .cut (.all .truncated), none)
    | ']' :: rest => ([], .closed, some rest)
    | cs => item fuel cs

/-- Reads an item and those behind it. -/
def item : Nat → List Char → List Draft × Ending × Rest
  | 0, _ => ([], .cut (.all .truncated), none)
  | fuel + 1, cs =>
    match value fuel cs with
    | (draft, none) => ([draft], .cut (.all .malformed), none)
    | (draft, some rest) =>
      match skipBlanks rest with
      | [] => ([draft], .cut (.all .truncated), none)
      | ']' :: rest => ([draft], .closed, some rest)
      | ',' :: rest =>
        match skipBlanks rest with
        | [] => ([draft], .cut { Cut.all .truncated with close := .malformed }, none)
        | ']' :: _ => ([draft], .cut (.all .malformed), none)
        | cs =>
          let (items, ending, rest) := item fuel cs
          (draft :: items, ending, rest)
      | _ => ([draft], .cut (.all .malformed), none)

/-- Reads fields behind an opening brace. -/
def firstField : Nat → List Char → List (Except Fault String × Draft) × Ending × Rest
  | 0, _ => ([], .cut (.all .truncated), none)
  | fuel + 1, cs =>
    match skipBlanks cs with
    | [] => ([], .cut (.all .truncated), none)
    | '\x7d' :: rest => ([], .closed, some rest)
    | '"' :: rest => field fuel rest
    | _ => ([], .cut (.all .malformed), none)

/-- Reads a field behind the opening quote of its name, and those behind it. -/
def field : Nat → List Char → List (Except Fault String × Draft) × Ending × Rest
  | 0, _ => ([], .cut (.all .truncated), none)
  | fuel + 1, cs =>
    match fieldName cs with
    | .error c => ([], .cut c, none)
    | .ok (name, rest) =>
      match skipBlanks rest with
      | [] => ([(name, .missing)], .cut (.all .malformed), none)
      | ':' :: rest =>
        match value fuel rest with
        | (draft, none) => ([(name, draft)], .cut (.all .malformed), none)
        | (draft, some rest) =>
          match skipBlanks rest with
          | [] => ([(name, draft)], .cut (.all .truncated), none)
          | '\x7d' :: rest => ([(name, draft)], .closed, some rest)
          | ',' :: rest =>
            match skipBlanks rest with
            | [] => ([(name, draft)], .cut { Cut.all .truncated with close := .malformed }, none)
            | '"' :: rest =>
              let (fields, ending, rest) := field fuel rest
              ((name, draft) :: fields, ending, rest)
            | _ => ([(name, draft)], .cut (.all .malformed), none)
          | _ => ([(name, draft)], .cut (.all .malformed), none)
      | _ => ([(name, .broken .malformed (some .malformed))], .cut (.all .malformed), none)

end

/-- More steps than it takes to read a text: each character takes three at most. -/
def fuelFor (cs : List Char) : Nat := 3 * cs.length + 3

/-- The draft of a text, and what follows its value. -/
def draft (cs : List Char) : Draft × Rest := value (fuelFor cs) cs

/-- Reads a text that comes as bytes with a reader of drafts. Nothing but blanks may follow the
value. -/
def readBytes {α : Type} (reader : Draft → Except Fault α) (bytes : List UInt8) :
    Except Fault α := do
  let (draft, rest) := draft (byteChars bytes)
  let a ← reader draft
  match rest with
  | some rest => if (skipBlanks rest).isEmpty then return a else throw .malformed
  | none => throw .malformed

def read {α : Type} (reader : Draft → Except Fault α) (text : String) : Except Fault α :=
  readBytes reader text.toUTF8.toList

/-- The value that a text holds. -/
def parse? (text : String) : Option Json := (read (Draft.settle Draft.maxDepth) text).toOption

end MediaPlayback.Json
