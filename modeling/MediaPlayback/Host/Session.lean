import MediaPlayback.Duration
import MediaPlayback.Path
import MediaPlayback.Text.Hexadecimal

/-! What the engine and the host's audio output tell each other: which file to prepare, what came of
it, and how a prepared session ended. A session is known by a 128-bit number, which is written in
the grouped hexadecimal form of unique identifiers. -/

namespace MediaPlayback

/-- The number of a prepared output session. -/
structure SessionId where
  value : BitVec 128
deriving DecidableEq, Repr, Inhabited

namespace SessionId

def ofNat (n : Nat) : SessionId := ⟨.ofNat 128 n⟩

def toNat (s : SessionId) : Nat := s.value.toNat

/-- The 32 hexadecimal digits of a session number, in lower case. -/
def digits (s : SessionId) : List Char :=
  let shown := Nat.toDigits 16 s.toNat
  List.replicate (32 - shown.length) '0' ++ shown

/-- The digits in groups of 8, 4, 4, 4 and 12 with hyphens between them. -/
def text (s : SessionId) : String :=
  let d := s.digits
  String.ofList (d.take 8 ++ '-' :: (d.drop 8).take 4 ++ '-' :: (d.drop 12).take 4 ++
    '-' :: (d.drop 16).take 4 ++ '-' :: d.drop 20)

/-- Reads 32 hexadecimal digits with the hyphens of `text`. -/
def ofGroups? (cs : List Char) : Option SessionId :=
  if cs.length = 36 ∧ [8, 13, 18, 23].all (fun i => cs[i]? == some '-') then
    (hexValue? (cs.take 8 ++ (cs.drop 9).take 4 ++ (cs.drop 14).take 4 ++ (cs.drop 19).take 4 ++
      cs.drop 24)).map ofNat
  else none

/-- Reads a session number: 32 hexadecimal digits, plain or with the hyphens of `text`. With hyphens
it may stand in braces or behind `urn:uuid:`. -/
def ofText? (text : String) : Option SessionId :=
  let cs := text.toList
  let mark := "urn:uuid:".toList
  if cs.length = 32 then (hexValue? cs).map ofNat
  else if cs.length = 38 ∧ cs.head? = some '\x7b' ∧ cs.getLast? = some '\x7d' then
    ofGroups? ((cs.drop 1).dropLast)
  else if mark.isPrefixOf cs then ofGroups? (cs.drop mark.length)
  else ofGroups? cs

end SessionId

/-- What the host may show about a track, for instance on a lock screen. -/
structure TrackMetadata where
  trackId : Option String := none
  title : Option String := none
  artist : Option String := none
  extra : List (String × String) := []
deriving DecidableEq, Repr, Inhabited

/-- How a session is set up when it is prepared. The volume is in thousandths of the full one. -/
structure OutputOptions where
  startPosition : Duration := .zero
  volume : Nat := 1000
  looping : Bool := false
deriving DecidableEq, Repr, Inhabited

/-- What the host is asked to prepare. -/
structure OutputRequest where
  path : Path
  options : OutputOptions := {}
  metadata : TrackMetadata := {}
deriving DecidableEq, Repr, Inhabited

/-- A session that the host prepared, with its length if the host knows it. -/
structure PreparedSession where
  session : SessionId
  duration : Option Duration
deriving DecidableEq, Repr, Inhabited

/-- What a session reports on its own. -/
inductive OutputEvent where
  | completed (session : SessionId)
  | failed (session : SessionId) (message : String)
deriving DecidableEq, Repr

def OutputEvent.session : OutputEvent → SessionId
  | .completed session => session
  | .failed session _ => session

end MediaPlayback
