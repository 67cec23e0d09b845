import MediaPlayback.Event.Bus

/-! A subscriber of a bus. While events are announced it reads now and then, and as long as it is not
told that it missed something, what it has read and what it has not read yet are together what was
announced since it subscribed. -/

namespace MediaPlayback

/-- What happens on a bus, as far as one subscriber is concerned. -/
inductive Occasion (α : Type) where
  | announced (a : α)
  | read

/-- A subscriber at its bus, and what its reads gave so far. -/
structure Subscription (α : Type) where
  bus : Bus α
  receiver : Receiver
  received : List (Received α) := []

variable {α : Type}

def Bus.join (bus : Bus α) : Subscription α :=
  let (receiver, bus) := bus.subscribe
  { bus, receiver }

def Occasion.announced? : Occasion α → Option α
  | .announced a => some a
  | .read => none

def Received.event? : Received α → Option α
  | .event a => some a
  | _ => none

def Received.isLagged : Received α → Bool
  | .lagged _ => true
  | _ => false

namespace Subscription

def step (s : Subscription α) : Occasion α → Subscription α
  | .announced a => { s with bus := s.bus.emit a }
  | .read =>
    let (received, receiver) := s.receiver.tryRecv s.bus
    { s with receiver, received := s.received ++ [received] }

def after (s : Subscription α) (occasions : List (Occasion α)) : Subscription α :=
  occasions.foldl step s

/-- The events that were read, in order. -/
def read (s : Subscription α) : List α := s.received.filterMap Received.event?

/-- The events that are still to be read, in order. -/
def unread (s : Subscription α) : List α := s.bus.history.toList.drop s.receiver.next

/-- Whether the subscriber was told that it missed something. -/
def lagged (s : Subscription α) : Bool := s.received.any Received.isLagged

variable {s : Subscription α}

theorem step_lagged (still : s.lagged = true) (o : Occasion α) : (s.step o).lagged = true := by
  cases o with
  | announced => exact still
  | read =>
    have still : s.received.any Received.isLagged = true := still
    simp [lagged, step, still]

theorem after_lagged (still : s.lagged = true) (os : List (Occasion α)) :
    (s.after os).lagged = true := by
  induction os generalizing s with
  | nil => exact still
  | cons o rest ih => exact ih (step_lagged still o)

/-- The bus goes on announcing to a subscriber, and the subscriber is never ahead of it. -/
structure Listening (s : Subscription α) : Prop where
  subscribed : s.bus.subscribers ≠ 0
  behind : s.receiver.next ≤ s.bus.history.size

theorem listening_join (bus : Bus α) : bus.join.Listening :=
  ⟨Nat.succ_ne_zero _, Nat.le_refl _⟩

/-- A step moves an event from the unread ones to the read ones, or adds one to the unread. -/
theorem Listening.step (listening : s.Listening) (o : Occasion α)
    (keepsUp : (s.step o).lagged = false) :
    (s.step o).Listening ∧
    (s.step o).read ++ (s.step o).unread = s.read ++ s.unread ++ o.announced?.toList := by
  obtain ⟨subscribed, behind⟩ := listening
  cases o with
  | announced a =>
    have pushed : s.bus.emit a = { s.bus with history := s.bus.history.push a } := by
      simp [Bus.emit, Bus.emit?, subscribed]
    refine ⟨⟨?_, ?_⟩, ?_⟩
    · rw [Subscription.step, pushed]
      exact subscribed
    · rw [Subscription.step, pushed, Array.size_push]
      exact Nat.le_succ_of_le behind
    · have drop : (s.bus.history.push a).toList.drop s.receiver.next =
          s.bus.history.toList.drop s.receiver.next ++ [a] := by
        rw [Array.toList_push, List.drop_append_of_le_length behind]
      rw [Subscription.step, pushed, unread, drop, List.append_assoc]
      rfl
  | read =>
    have moved : ∀ received receiver, s.receiver.tryRecv s.bus = (received, receiver) →
        s.step .read = { s with receiver, received := s.received ++ [received] } := by
      intro received receiver h
      rw [Subscription.step, h]
    unfold Receiver.tryRecv at moved
    split at moved
    case isTrue =>
      rw [moved _ _ rfl] at keepsUp
      simp [lagged, Received.isLagged] at keepsUp
    case isFalse =>
      split at moved
      case h_1 a there =>
        obtain ⟨inside, found⟩ := Array.getElem?_eq_some_iff.mp there
        rw [moved _ _ rfl]
        refine ⟨⟨subscribed, inside⟩, ?_⟩
        have drop : s.unread = a :: s.bus.history.toList.drop (s.receiver.next + 1) := by
          rw [unread, List.drop_eq_getElem_cons (by simpa using inside)]
          simp [found]
        rw [drop]
        simp [Subscription.read, unread, Received.event?, Occasion.announced?]
      case h_2 =>
        rw [moved _ _ rfl]
        refine ⟨⟨subscribed, behind⟩, ?_⟩
        cases s.bus.closed <;>
          simp [Subscription.read, unread, Received.event?, Occasion.announced?]

theorem Listening.after (listening : s.Listening) (os : List (Occasion α))
    (keepsUp : (s.after os).lagged = false) :
    (s.after os).read ++ (s.after os).unread =
      s.read ++ s.unread ++ os.filterMap Occasion.announced? := by
  induction os generalizing s with
  | nil => exact (List.append_nil _).symm
  | cons o rest ih =>
    have now : (s.step o).lagged = false := by
      cases lagged : (s.step o).lagged with
      | false => rfl
      | true => exact (after_lagged lagged rest).symm.trans keepsUp
    obtain ⟨still, moved⟩ := listening.step o now
    have later := ih still keepsUp
    rw [moved, List.append_assoc] at later
    refine later.trans (congrArg (s.read ++ s.unread ++ ·) ?_)
    cases o <;> rfl

/-- A subscriber that is never told that it missed something misses nothing. -/
theorem read_append_unread (bus : Bus α) (os : List (Occasion α))
    (keepsUp : (bus.join.after os).lagged = false) :
    (bus.join.after os).read ++ (bus.join.after os).unread =
      os.filterMap Occasion.announced? := by
  have nothing : bus.join.unread = [] := List.drop_length
  have whole := (listening_join bus).after os keepsUp
  rw [nothing] at whole
  exact whole

end Subscription
end MediaPlayback
