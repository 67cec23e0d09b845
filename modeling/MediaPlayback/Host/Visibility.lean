/-! Whether an app is in front of the user, as its host reports it. -/

namespace MediaPlayback

/-- What the host says about the app. -/
inductive AppState where
  | foreground
  | background
  | suspended
deriving DecidableEq, Repr, Inhabited

/-- A suspended app counts as one in the background. -/
def AppState.isForeground (state : AppState) : Bool := state == .foreground

/-- The word that diagnostics use for a state. -/
def AppState.name : AppState → String
  | .foreground => "Foreground"
  | .background => "Background"
  | .suspended => "Suspended"

end MediaPlayback
