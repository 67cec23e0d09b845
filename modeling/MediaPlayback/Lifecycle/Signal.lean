import MediaPlayback.Duration
import MediaPlayback.Event
import MediaPlayback.Log.Record

/-! The lifecycle signal: it decides when the app counts as in the background. A report that the app
went out of sight is declared only after a delay, and not at all if the app comes back meanwhile or
if the next declaration is to be ignored. A return is declared at once, but only after a declared
departure. Time is an input of every operation. -/

namespace MediaPlayback

/-- A declaration that waits: when it is due, and the generation that it belongs to. -/
structure PendingDeclaration where
  due : Duration
  generation : Nat
deriving DecidableEq, Repr

structure Signal where
  /-- The delay of a declaration. -/
  debounce : Duration
  /-- Whether the last declaration was that the app is in the background. -/
  background : Bool := false
  pending : Option PendingDeclaration := none
  /-- Counts what makes waiting declarations void. -/
  generation : Nat := 0
  /-- Whether the next declaration is to be ignored. -/
  ignoreNext : Bool := false
deriving DecidableEq, Repr

/-- What an operation on the signal leads to: its new state, the declaration it makes, and what it
writes to the log. -/
structure Signal.Outcome where
  signal : Signal
  declared : Option LifecycleEvent := none
  log : List (LogLevel × String) := []

namespace Signal

/-- The delay of a generation is over. -/
def expire (s : Signal) (generation : Nat) : Outcome :=
  if s.generation ≠ generation then { signal := s }
  else
    let s := { s with pending := none }
    if s.ignoreNext then
      { signal := { s with ignoreNext := false }
        log := [(.debug, "Background declaration ignored on request")] }
    else if s.background then { signal := s }
    else
      { signal := { s with background := true }
        declared := some .becameBackground
        log := [(.info, "Application became background")] }

/-- The host reports that the app went out of sight. -/
def rawBackground (s : Signal) (now : Duration) : Outcome :=
  if s.background then { signal := s }
  else
    let generation := s.generation + 1
    { signal := { s with generation, pending := some ⟨now + s.debounce, generation⟩ } }

/-- The host reports that the app went out of sight, and there is no clock that could delay the
declaration. -/
def rawBackgroundAtOnce (s : Signal) : Outcome :=
  if s.background then { signal := s }
  else
    let generation := s.generation + 1
    let outcome := { s with generation, pending := none }.expire generation
    { outcome with
      log := (.warn, "No tokio runtime; declaring background without debounce") :: outcome.log }

/-- The host reports that the app came back. -/
def rawForeground (s : Signal) : Outcome :=
  let dropped := match s.pending with
    | some _ => [(.debug, "Foreground returned within debounce; background dropped")]
    | none => []
  let s := { s with pending := none, generation := s.generation + 1 }
  if s.background then
    { signal := { s with background := false }
      declared := some .becameForeground
      log := dropped ++ [(.info, "Application became foreground")] }
  else { signal := s, log := dropped }

/-- The next departure is not to be declared: the one that waits, or else the next one that would be
declared. -/
def ignoreNextBackground (s : Signal) : Outcome :=
  match s.pending with
  | some _ =>
    { signal := { s with pending := none, generation := s.generation + 1 }
      log := [(.debug, "Pending background declaration cancelled")] }
  | none => { signal := { s with ignoreNext := true } }

/-- Drops what waits. -/
def shutdown (s : Signal) : Outcome :=
  { signal := { s with pending := none, generation := s.generation + 1 } }

end Signal
end MediaPlayback
