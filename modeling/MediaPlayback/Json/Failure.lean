import MediaPlayback.Error
import MediaPlayback.Json.Basic

/-! The JSON form of failures: an object of the name of the cause and of the message. -/

namespace MediaPlayback

/-- A failure that is known by its name alone. -/
def Json.fault (kind : String) : Json := .object [("error", .string kind)]

def Json.failure (kind message : String) : Json :=
  .object [("error", .string kind), ("message", .string message)]

def HostError.toJson (e : HostError) : Json := .failure e.kind e.message

def PlaybackError.toJson (e : PlaybackError) : Json := .failure e.kind e.message

def ConfigError.toJson (e : ConfigError) : Json := .failure e.kind e.message

def ServiceError.toJson (e : ServiceError) : Json := .failure e.kind e.message

def Json.ofResult {ε α : Type} (failure : ε → Json) (value : α → Json) : Except ε α → Json
  | .ok a => value a
  | .error e => failure e

end MediaPlayback
