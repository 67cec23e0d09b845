/-! A watched value. Its watchers see only the latest value: each is told once of any number of
changes since it looked last, also when a change set the value that was there before. -/

namespace MediaPlayback

/-- A value that can be watched, and how many times it was set. -/
structure Watch (α : Type) where
  value : α
  version : Nat := 0
  /-- Whether the value will not be set any more. -/
  closed : Bool := false
deriving Repr

/-- A watcher: the version that it saw last. -/
structure Watcher where
  seen : Nat
deriving DecidableEq, Repr

/-- What a watcher sees when it looks. -/
inductive Sight (α : Type) where
  | changed (a : α)
  /-- Nothing new. -/
  | unchanged
  /-- Nothing new, and nothing will come. -/
  | ended
deriving Repr

namespace Watch

variable {α : Type}

def set (w : Watch α) (a : α) : Watch α := { w with value := a, version := w.version + 1 }

def close (w : Watch α) : Watch α := { w with closed := true }

/-- A watcher to which the present value is not new. -/
def subscribe (w : Watch α) : Watcher := ⟨w.version⟩

end Watch

/-- A watcher looks. A change that was not seen comes before the end. -/
def Watcher.look {α : Type} (watcher : Watcher) (w : Watch α) : Sight α × Watcher :=
  if watcher.seen ≠ w.version then (.changed w.value, w.subscribe)
  else if w.closed then (.ended, watcher)
  else (.unchanged, watcher)

/-- However often the value was set, a watcher that looks sees the last one, and then nothing new. -/
theorem Watcher.look_look {α : Type} (watcher : Watcher) (w : Watch α) :
    ((watcher.look w).2.look w).1 = if w.closed then .ended else .unchanged := by
  simp only [look, Watch.subscribe]
  repeat' split
  all_goals simp_all

end MediaPlayback
