import MediaPlayback.Duration
import MediaPlayback.Item
import MediaPlayback.Text.Blank

/-! What a wave file says about itself: how long it plays, from its format and the size of its sound
data, and the title and artist in its lists of information. A file whose chunks cannot be followed,
or that has no format or no sound data, says nothing. -/

namespace MediaPlayback.Wave

abbrev Bytes := List UInt8

/-- The number that bytes stand for, the lowest first. -/
def little : Bytes → Nat
  | [] => 0
  | b :: bs => b.toNat + 256 * little bs

/-- The number in the `count` bytes behind the first `start` ones. -/
def numberAt (bytes : Bytes) (start count : Nat) : Nat := little ((bytes.drop start).take count)

/-- The bytes of a name of ASCII characters. -/
def name (s : String) : Bytes := s.toList.map fun c => .ofNat c.toNat

/-- What stands in front of a piece of a file: its name and the size of its content. -/
structure Header where
  kind : Bytes
  size : Nat
deriving DecidableEq, Repr

def header? (bytes : Bytes) : Option (Header × Bytes) :=
  if bytes.length < 8 then none
  else some (⟨bytes.take 4, numberAt bytes 4 4⟩, bytes.drop 8)

/-- What follows a content: one of odd size has a spare byte behind it. -/
def Header.behind (h : Header) (content : Bytes) : Bytes := content.drop (h.size + h.size % 2)

/-- An entry of a list of information. -/
structure Entry where
  kind : Bytes
  content : Bytes
deriving DecidableEq, Repr

/-- Whether a byte is a capital letter. -/
def isCapital (b : UInt8) : Bool := 65 ≤ b && b ≤ 90

/-- Reads at most `fuel` entries of a list of information, up to the place behind which `left` bytes
remain, and gives what follows. An entry that reaches beyond that place does not end the list. There
is nothing if the name of an entry is not made of capital letters or its content is cut off. -/
def entriesWithin : Nat → Nat → Bytes → Option (List Entry × Bytes)
  | 0, _, bytes => some ([], bytes)
  | fuel + 1, left, bytes =>
    if bytes.length = left then some ([], bytes)
    else
      match header? bytes with
      | none => some ([], bytes)
      | some (h, content) =>
        if !h.kind.all isCapital || content.length < h.size then none
        else do
          let (entries, rest) ← entriesWithin fuel left (h.behind content)
          return (⟨h.kind, content.take h.size⟩ :: entries, rest)

/-- What is found in the chunks of a file. -/
structure Findings where
  format : Bytes := []
  /-- The number of samples, if the file gives it. -/
  samples : Nat := 0
  /-- The size of the sound data, as the file gives it. -/
  soundSize : Nat := 0
  entries : List Entry := []
deriving Repr

/-- Takes the content of a chunk into account, and gives what follows the chunk. Of several
descriptions of the format, sizes of sound data and numbers of samples the first counts that is not
empty or zero. -/
def Findings.take (f : Findings) (fuel : Nat) (h : Header) (content : Bytes) :
    Option (Findings × Bytes) :=
  let behind := h.behind content
  if h.kind = name "fmt " then
    if f.format ≠ [] then some (f, behind)
    else if content.length < h.size then none
    else some ({ f with format := content.take h.size }, behind)
  else if h.kind = name "data" then
    some (if f.soundSize = 0 then { f with soundSize := h.size } else f, behind)
  else if h.kind = name "fact" then
    if f.samples ≠ 0 then some (f, content.drop 4)
    else if content.length < 4 then none
    else some ({ f with samples := numberAt content 0 4 }, content.drop 4)
  else if h.kind = name "LIST" then
    if content.length < 4 ∨ h.size < 4 then none
    else if content.take 4 ≠ name "INFO" then some (f, behind)
    else if content.length < h.size then none
    else do
      let (entries, rest) ← entriesWithin fuel (content.length - h.size) (content.drop 4)
      return ({ f with entries := f.entries ++ entries }, rest)
  else some (f, behind)

/-- Follows at most `fuel` chunks. -/
def Findings.follow : Nat → Findings → Bytes → Option Findings
  | 0, f, _ => some f
  | fuel + 1, f, bytes =>
    match header? bytes with
    | none => some f
    | some (h, content) => do
      let (f, rest) ← f.take fuel h content
      Findings.follow fuel f rest

/-- How sound is stored. -/
structure Format where
  channels : Nat
  rate : Nat
  bytesPerSecond : Nat
  bitsPerSample : Nat
deriving DecidableEq, Repr

namespace Format

/-- The code of a format that is given in detail further on. -/
def detailed : Nat := 0xFFFE

/-- The codes of formats that store one number after the other: whole ones and broken ones. -/
def plain : List Nat := [1, 3]

/-- The format that the findings describe. The number of channels is a byte. Formats that compress
need the number of samples. -/
def ofFindings? (f : Findings) : Option Format :=
  let bytes := f.format
  let bits := numberAt bytes 14 2
  let channels := numberAt bytes 2 1
  let code := if numberAt bytes 0 2 = detailed then numberAt bytes 24 2 else numberAt bytes 0 2
  if bytes.length < 16 ∨ (numberAt bytes 0 2 = detailed ∧ bytes.length < 40) then none
  else if channels = 0 ∨ bits % 8 ≠ 0 then none
  else if code ∉ plain ∧ f.samples = 0 then none
  else some ⟨channels, numberAt bytes 4 4, numberAt bytes 8 4, bits⟩

/-- A quotient, rounded to the nearest. -/
def nearest (n d : Nat) : Nat := (n + d / 2) / d

/-- The length of so many bytes of sound in milliseconds: from the number of samples and their rate,
or else from the number of bytes in a second. -/
def millis (f : Format) (size : Nat) : Nat :=
  let samples := if f.bitsPerSample = 0 then 0 else size / (f.channels * (f.bitsPerSample / 8))
  if 0 < f.rate ∧ 0 < samples then nearest (samples * 1000) f.rate
  else if 0 < f.bytesPerSecond then nearest (size * 1000) f.bytesPerSecond
  else 0

end Format

/-- The text of an entry, without the zeros and then without the white space at its ends. -/
def entryText? (bytes : Bytes) : Option String :=
  let bytes := ((bytes.dropWhile (· = 0)).reverse.dropWhile (· = 0)).reverse
  (String.fromUTF8? ⟨bytes.toArray⟩).map fun s => String.ofList (trimmed s.toList)

/-- The first readable entry of a name in a list of information. -/
def textOf? (kind : String) (entries : List Entry) : Option String :=
  (entries.filter (·.kind = name kind)).findSome? fun e => entryText? e.content

/-- What a file says about itself. -/
structure Description where
  tags : Tags := {}
  /-- How long it plays, unless that is not even half a millisecond. -/
  duration : Option Duration := none
deriving DecidableEq, Repr

/-- What the chunks of a file say. -/
def describeChunks? (bytes : Bytes) : Option Description := do
  let f ← Findings.follow bytes.length {} bytes
  if f.soundSize = 0 then none
  let format ← Format.ofFindings? f
  let millis := format.millis f.soundSize
  return {
    tags := ⟨textOf? "INAM" f.entries, textOf? "IART" f.entries⟩
    duration := if millis = 0 then none else some (.ofMillis millis) }

/-- What a file says about itself, if it is a wave file. -/
def describe? (bytes : Bytes) : Option Description :=
  if bytes.take 4 = name "RIFF" ∧ (bytes.drop 8).take 4 = name "WAVE" then
    describeChunks? (bytes.drop 12)
  else none

end MediaPlayback.Wave
