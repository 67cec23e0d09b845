/-! The exclusive tokens of a host: audio focus, which it grants, takes away and gives back, and the
wake lock, which has a name. -/

namespace MediaPlayback

/-- The host's answer to a request for audio focus. -/
inductive FocusGrant where
  | granted
  | denied
deriving DecidableEq, Repr, Inhabited

def FocusGrant.isGranted (grant : FocusGrant) : Bool := grant == .granted

/-- What the host does to a granted focus. -/
inductive FocusChange where
  /-- Focus came back after a transient loss. -/
  | gained
  /-- Focus is gone for good. -/
  | lost
  /-- Focus is gone for a while. -/
  | lostTransient
deriving DecidableEq, Repr, Inhabited

/-- The word that diagnostics use for a change. -/
def FocusChange.name : FocusChange → String
  | .gained => "Gained"
  | .lost => "Lost"
  | .lostTransient => "LostTransient"

/-- The name of the wake lock that spans a move to the background. -/
def wakeLockTag : String := "media-playback:transition"

end MediaPlayback
