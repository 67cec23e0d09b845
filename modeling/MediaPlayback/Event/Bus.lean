/-! The bus that events are announced on. Every subscriber reads on its own, from the moment it
subscribed. The bus keeps a fixed number of the last events; a subscriber that has fallen further
behind is told how many it has missed and goes on with the oldest one that is kept. A stream is a
subscriber that passes over the events that its filter does not accept, but never over a gap. -/

namespace MediaPlayback

/-- A bus for announcements of type `α`. -/
structure Bus (α : Type) where
  /-- How many events can still be read. -/
  capacity : Nat
  /-- All events since the start; only the last `capacity` of them can still be read. -/
  history : Array α := #[]
  subscribers : Nat := 0
  /-- Whether nothing more will be announced. -/
  closed : Bool := false

/-- A subscriber: the number of events that it is past. -/
structure Receiver where
  next : Nat
deriving DecidableEq, Repr, Inhabited

/-- What an attempt to read gives. -/
inductive Received (α : Type) where
  | event (a : α)
  /-- Nothing more has been announced. -/
  | empty
  /-- So many events were missed. -/
  | lagged (missed : Nat)
  /-- Nothing more will be announced. -/
  | closed
deriving Repr

/-- The largest capacity that a bus can be asked for. -/
def Bus.maxCapacity : Nat := Nat.pow 2 63 - 1

/-- The most events that there is room for. -/
def Bus.maxRoom : Nat := Nat.pow 2 55

namespace Bus

variable {α : Type}

/-- A bus that keeps at least so many events: the next power of two. -/
def create? (capacity : Nat) : Option (Bus α) :=
  if capacity = 0 ∨ maxCapacity < capacity then none
  else some { capacity := capacity.nextPowerOfTwo }

/-- Whether there is room for all events that the bus keeps. -/
def hasRoom (bus : Bus α) : Bool := bus.capacity ≤ maxRoom

/-- A bus that keeps at least so many events, where there is room for them. -/
def allocate? (capacity : Nat) : Option (Bus α) := (create? capacity).filter hasRoom

/-- The number of events that can no longer be read. -/
def dropped (bus : Bus α) : Nat := bus.history.size - bus.capacity

def subscribe (bus : Bus α) : Receiver × Bus α :=
  (⟨bus.history.size⟩, { bus with subscribers := bus.subscribers + 1 })

def unsubscribe (bus : Bus α) : Bus α := { bus with subscribers := bus.subscribers - 1 }

/-- Announces an event. Without subscribers it is lost, and there is no answer. -/
def emit? (bus : Bus α) (a : α) : Option (Bus α) :=
  if bus.subscribers = 0 then none else some { bus with history := bus.history.push a }

def emit (bus : Bus α) (a : α) : Bus α := (bus.emit? a).getD bus

/-- How diagnostics write a bus. -/
def debug (bus : Bus α) : String :=
  "EventBus \x7b subscriber_count: " ++ toString bus.subscribers ++ " \x7d"

/-- The report that nothing can be sent or will be received any more. -/
def closedMessage : String := "channel closed"

end Bus

/-- Reads the next event. -/
def Receiver.tryRecv {α : Type} (r : Receiver) (bus : Bus α) : Received α × Receiver :=
  if r.next < bus.dropped then (.lagged (bus.dropped - r.next), ⟨bus.dropped⟩)
  else
    match bus.history[r.next]? with
    | some a => (.event a, ⟨r.next + 1⟩)
    | none => (if bus.closed then .closed else .empty, r)

theorem Receiver.next_of_event {α : Type} {r r' : Receiver} {bus : Bus α} {a : α}
    (h : r.tryRecv bus = (.event a, r')) : r.next < bus.history.size ∧ r'.next = r.next + 1 := by
  unfold tryRecv at h
  split at h
  · simp at h
  · split at h
    · rename_i found
      simp only [Prod.mk.injEq] at h
      exact ⟨(Array.getElem?_eq_some_iff.mp found).1, by rw [← h.2]⟩
    · split at h <;> simp at h

/-- A subscriber with a filter, if it has one. -/
structure EventStream (α : Type) where
  receiver : Receiver
  filter : Option (α → Bool) := none

namespace EventStream

variable {α : Type}

def accepts (s : EventStream α) (a : α) : Bool := s.filter.all (· a)

/-- How diagnostics write a stream. -/
def debug (s : EventStream α) : String :=
  "EventStream \x7b has_filter: " ++ toString s.filter.isSome ++ " \x7d"

/-- Reads the next event that the filter accepts. -/
def tryRecv (s : EventStream α) (bus : Bus α) : Received α × EventStream α :=
  match _h : s.receiver.tryRecv bus with
  | (.event a, receiver) =>
    if s.accepts a then (.event a, { s with receiver })
    else tryRecv { s with receiver } bus
  | (.empty, receiver) => (.empty, { s with receiver })
  | (.lagged n, receiver) => (.lagged n, { s with receiver })
  | (.closed, receiver) => (.closed, { s with receiver })
termination_by bus.history.size - s.receiver.next
decreasing_by
  have := Receiver.next_of_event _h
  show bus.history.size - receiver.next < bus.history.size - s.receiver.next
  omega

end EventStream
end MediaPlayback
