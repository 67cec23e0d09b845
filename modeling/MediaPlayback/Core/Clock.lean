import MediaPlayback.Core.Declaration

/-! The clock of a playback core: which of its timers is due next, and what happens then. -/

namespace MediaPlayback.Core

variable {σ L : Type}

/-- When the next timer is due. -/
def nextDue? (c : Core σ L) : Option Duration :=
  match c.signal.pending, c.ticker with
  | none, none => none
  | some pending, none => some pending.due
  | none, some ticker => some ticker.next
  | some pending, some ticker => some (if ticker.next ≤ pending.due then ticker.next else pending.due)

variable [Surroundings σ L]

/-- The declaration that waits is made if it is due. -/
def expireIfDue (c : Core σ L) : Core σ L :=
  match c.signal.pending with
  | none => c
  | some pending => if pending.due ≤ c.now then c.expire pending.generation else c

/-- The position is reported if it is time to. -/
def beatIfDue (c : Core σ L) : Core σ L :=
  match c.ticker with
  | none => c
  | some ticker => if ticker.next ≤ c.now then c.beat else c

end MediaPlayback.Core
