/-! A feed of reports from the host. What is sent waits until somebody claims the feed; it can be
claimed once. -/

namespace MediaPlayback

structure Feed (α : Type) where
  /-- Reports that wait, the first one first. -/
  waiting : List α := []
  claimed : Bool := false
  /-- Whether the sender is done. -/
  closed : Bool := false
  /-- Whether the receiver is gone. -/
  dropped : Bool := false
deriving Repr, Inhabited

namespace Feed

variable {α : Type}

/-- Whether a report that is sent now can arrive. -/
def isOpen (f : Feed α) : Bool := !f.closed && !f.dropped

def send (f : Feed α) (a : α) : Feed α :=
  if f.isOpen then { f with waiting := f.waiting ++ [a] } else f

def close (f : Feed α) : Feed α := { f with closed := true }

def drop (f : Feed α) : Feed α := { f with dropped := true, waiting := [] }

/-- Whether the receiver has something to do: a report to take, or an end to notice. -/
def isReady (f : Feed α) : Bool :=
  f.claimed && !f.dropped && (!f.waiting.isEmpty || f.closed)

end Feed
end MediaPlayback
