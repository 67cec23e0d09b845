import MediaPlayback.Event
import MediaPlayback.Item

/-! What the engine is doing. Whether an output session exists follows from the mode: there is one
exactly while an item is playing or paused. -/

namespace MediaPlayback

/-- A request to prepare an item, and what is meant to happen once it is prepared. -/
structure PrepareRequest where
  /-- The number of the request: later requests have larger ones. -/
  id : Nat
  /-- Whether playback starts once the item is prepared; otherwise it is paused then. -/
  autoplay : Bool
  /-- Where to move once the item is prepared. -/
  seekTo : Option Duration
  /-- What is reported meanwhile: stopped at a fresh start, and what went before when a live item is
  replaced. -/
  reported : PlaybackState
deriving DecidableEq, Repr

namespace PrepareRequest

/-- The request, once playback is wanted. -/
def resume (r : PrepareRequest) : PrepareRequest :=
  { r with autoplay := true, reported := if r.reported = .paused then .playing else r.reported }

/-- The request, once a pause is wanted. -/
def hold (r : PrepareRequest) : PrepareRequest :=
  { r with autoplay := false, reported := if r.reported = .playing then .paused else r.reported }

end PrepareRequest

inductive Mode where
  | idle
  | preparing (item : Item) (request : PrepareRequest)
  | playing (item : Item) (session : SessionId)
  | paused (item : Item) (session : SessionId)
deriving DecidableEq, Repr, Inhabited

namespace Mode

/-- What everyone else sees. -/
def reported : Mode → PlaybackState
  | .idle => .stopped
  | .preparing _ request => request.reported
  | .playing .. => .playing
  | .paused .. => .paused

/-- The active item. -/
def item? : Mode → Option Item
  | .idle => none
  | .preparing item _ | .playing item _ | .paused item _ => some item

def session? : Mode → Option SessionId
  | .playing _ session | .paused _ session => some session
  | _ => none

/-- Whether audio is meant to be heard, now or once the item is prepared. -/
def wantsPlayback : Mode → Bool
  | .playing .. => true
  | .preparing _ request => request.autoplay
  | _ => false

end Mode
end MediaPlayback
