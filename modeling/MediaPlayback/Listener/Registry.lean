/-! Registered listeners and how they are told something. A round of telling goes through the
listeners that were registered when it began, in the order of registration. A listener that breaks
off does not keep the others from being told, and what a listener adds or removes meanwhile counts
from the next round on. -/

namespace MediaPlayback

/-- The number that a listener got when it was registered. -/
structure ListenerId where
  value : UInt64
deriving DecidableEq, Repr, Inhabited

/-- The name of a registration for people to read. -/
def ListenerId.text (id : ListenerId) : String := "listener-" ++ toString id.value.toNat

/-- What a listener that broke off left behind. -/
inductive Breakdown where
  | text (message : String)
  | other
deriving DecidableEq, Repr, Inhabited

def Breakdown.message : Breakdown → String
  | .text message => message
  | .other => "non-string panic payload"

/-- Registered listeners in the order of registration, and the number that the next one gets. -/
structure Registry (L : Type) where
  next : UInt64 := 1
  entries : List (ListenerId × L) := []
deriving Repr

/-- A change to the registrations. -/
inductive Edit (L : Type) where
  | add (listener : L)
  | remove (id : ListenerId)
deriving Repr

/-- The change, for registrations of another kind of listener. -/
def Edit.map {L M : Type} (f : L → M) : Edit L → Edit M
  | .add listener => .add (f listener)
  | .remove id => .remove id

/-- What a listener does when it is told something: changes to the registrations, messages that it
posts, and a breakdown if it breaks off. -/
structure Reaction (L P : Type) where
  edits : List (Edit L) := []
  posts : List P := []
  breakdown : Option Breakdown := none
deriving Repr

/-- A listener that was told something, and what came of it. -/
structure Told (L P : Type) where
  id : ListenerId
  listener : L
  posts : List P
  breakdown : Option Breakdown
deriving Repr

namespace Registry

variable {L P σ : Type}

instance : Inhabited (Registry L) := ⟨{}⟩

def length (r : Registry L) : Nat := r.entries.length

/-- Registers a listener behind the others. -/
def add (r : Registry L) (listener : L) : ListenerId × Registry L :=
  (⟨r.next⟩, ⟨r.next + 1, r.entries ++ [(⟨r.next⟩, listener)]⟩)

/-- Takes a registration back. -/
def remove (r : Registry L) (id : ListenerId) : Registry L :=
  { r with entries := r.entries.filter (·.1 ≠ id) }

def isRegistered (r : Registry L) (id : ListenerId) : Bool := r.entries.any (·.1 = id)

def edit (r : Registry L) : Edit L → Registry L
  | .add listener => (r.add listener).2
  | .remove id => r.remove id

/-- Tells the listeners of a list one after the other. `react` says what each does, given the
registrations at that moment and the state of all that is outside. -/
def tell (react : Registry L → ListenerId → L → σ → Reaction L P × σ) :
    List (ListenerId × L) → Registry L → σ → List (Told L P) × Registry L × σ
  | [], r, outside => ([], r, outside)
  | (id, listener) :: rest, r, outside =>
    let (reaction, outside) := react r id listener outside
    let (told, r, outside) := tell react rest (reaction.edits.foldl edit r) outside
    (⟨id, listener, reaction.posts, reaction.breakdown⟩ :: told, r, outside)

/-- A round of telling goes through the whole list in order. -/
theorem tell_listeners (react : Registry L → ListenerId → L → σ → Reaction L P × σ)
    (entries : List (ListenerId × L)) (r : Registry L) (outside : σ) :
    (tell react entries r outside).1.map (fun told => (told.id, told.listener)) = entries := by
  induction entries generalizing r outside with
  | nil => rfl
  | cons entry rest ih => exact congrArg (entry :: ·) (ih _ _)

/-- Tells every listener that is registered now. -/
def notify (r : Registry L) (react : Registry L → ListenerId → L → σ → Reaction L P × σ)
    (outside : σ) : List (Told L P) × Registry L × σ :=
  tell react r.entries r outside

end Registry
end MediaPlayback
