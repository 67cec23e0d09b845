import MediaPlayback.Event.Bus

/-! A bus with all its subscribers, each of which has a name. -/

namespace MediaPlayback

/-- A bus and its subscribers. -/
structure Audience (α : Type) where
  bus : Bus α
  streams : List (String × EventStream α) := []

namespace Audience

variable {α : Type}

/-- The subscribers by other names. -/
def others (a : Audience α) (name : String) : List (String × EventStream α) :=
  a.streams.filter (·.1 ≠ name)

def stream? (a : Audience α) (name : String) : Option (EventStream α) := a.streams.lookup name

/-- A subscriber leaves, if there is one of that name. -/
def leave (a : Audience α) (name : String) : Audience α :=
  { bus := if (a.stream? name).isSome then a.bus.unsubscribe else a.bus, streams := a.others name }

/-- A new subscriber comes, in place of one of the same name. -/
def join (a : Audience α) (name : String) (filter : Option (α → Bool)) : Audience α :=
  let a := a.leave name
  let (receiver, bus) := a.bus.subscribe
  { bus, streams := (name, ⟨receiver, filter⟩) :: a.streams }

/-- A subscriber reads, if there is one of that name. -/
def read? (a : Audience α) (name : String) : Option (Received α × Audience α) :=
  (a.stream? name).map fun stream =>
    let (received, stream) := stream.tryRecv a.bus
    (received, { a with streams := (name, stream) :: a.others name })

def announce (a : Audience α) (event : α) (times : Nat) : Audience α :=
  { a with bus := (List.replicate times event).foldl Bus.emit a.bus }

/-- Nothing more will be announced. -/
def close (a : Audience α) : Audience α := { a with bus := { a.bus with closed := true } }

end Audience
end MediaPlayback
