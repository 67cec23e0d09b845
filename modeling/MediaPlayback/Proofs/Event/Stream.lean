import Mathlib.Data.List.TakeWhile
import MediaPlayback.Proofs.Event.Subscriber

/-! A stream at its bus, beside an account of what becomes of the events that are announced to it.
For the account, a bus is a queue of bounded length in front of every stream: when an event comes
that there is no room for, the oldest one that waits is dropped, and the next read says how many
were. Whatever a stream does is as the account has it, so that no event gets lost without a word. -/

namespace MediaPlayback

/-- What became of an event, as far as one stream is concerned. -/
inductive Fate where
  | returned
  /-- The filter did not accept it. -/
  | rejected
  | dropped
deriving DecidableEq

/-- Events that all met with one fate. -/
def Fate.of {α : Type} (fate : Fate) (events : List α) : List (Fate × α) := events.map (fate, ·)

/-- What became of the events that were announced to a stream, in the order of the announcements:
first those that were dealt with, and then those that wait. -/
structure Account (α : Type) where
  settled : List (Fate × α) := []
  waiting : List α := []
  /-- How many were dropped that the stream was not told of. -/
  unreported : Nat := 0

/-- What happens on a bus, as far as one stream is concerned. -/
inductive Happening (α : Type) where
  | announced (a : α)
  | read
  | closed

/-- A stream at its bus, and what its reads gave so far. -/
structure Tuned (α : Type) where
  bus : Bus α
  stream : EventStream α
  answers : List (Received α) := []

variable {α : Type}

/-- A new stream at a bus. -/
def Bus.tune (bus : Bus α) (filter : Option (α → Bool)) : Tuned α :=
  let (receiver, bus) := bus.subscribe
  { bus, stream := { receiver, filter } }

def Happening.announced? : Happening α → Option α
  | .announced a => some a
  | _ => none

/-- The number of events that an answer reports as missed. -/
def Received.missed : Received α → Nat
  | .lagged missed => missed
  | _ => 0

namespace Fate

variable (fate other : Fate) (events : List α)

@[simp] theorem map_of : (fate.of events).map (·.2) = events := by
  simp [Fate.of, Function.comp_def]

@[simp] theorem filter_of : (fate.of events).filter (·.1 = other) =
    if fate = other then fate.of events else [] := by
  rw [Fate.of, List.filter_map]
  by_cases same : fate = other
  · rw [if_pos same, List.filter_eq_self.mpr]
    exact fun _ _ => decide_eq_true same
  · rw [if_neg same, List.filter_eq_nil_iff.mpr, List.map_nil]
    exact fun _ _ => by simpa using same

@[simp] theorem countP_of : (fate.of events).countP (·.1 = other) =
    if fate = other then events.length else 0 := by
  rw [Fate.of, List.countP_map]
  by_cases same : fate = other <;> simp [Function.comp_def, same]

theorem eq_of_mem {entry : Fate × α} (mem : entry ∈ fate.of events) :
    entry.1 = fate ∧ entry.2 ∈ events := by
  obtain ⟨a, there, rfl⟩ := List.mem_map.mp mem
  exact ⟨rfl, there⟩

end Fate

namespace Account

/-- An event comes. Only `capacity` events can wait. -/
def announce (capacity : Nat) (c : Account α) (a : α) : Account α :=
  let waiting := c.waiting ++ [a]
  if waiting.length ≤ capacity then { c with waiting }
  else
    { settled := c.settled ++ Fate.dropped.of (waiting.take 1)
      waiting := waiting.drop 1
      unreported := c.unreported + 1 }

/-- The stream reads: it is told what it missed, or else takes the first event that it accepts. -/
def read (accepts : α → Bool) (c : Account α) : Account α :=
  if c.unreported ≠ 0 then { c with unreported := 0 }
  else
    let rejected := c.waiting.takeWhile (!accepts ·)
    let rest := c.waiting.dropWhile (!accepts ·)
    { c with
      settled := c.settled ++ (Fate.rejected.of rejected ++ Fate.returned.of (rest.take 1))
      waiting := rest.drop 1 }

def step (capacity : Nat) (accepts : α → Bool) (c : Account α) : Happening α → Account α
  | .announced a => c.announce capacity a
  | .read => c.read accepts
  | .closed => c

/-- The account of a new stream after `happenings`. -/
def after (capacity : Nat) (accepts : α → Bool) (happenings : List (Happening α)) : Account α :=
  happenings.foldl (step capacity accepts) {}

/-- How many events met with a fate. -/
def count (c : Account α) (fate : Fate) : Nat := c.settled.countP (·.1 = fate)

/-- The events that were dealt with and not dropped. -/
def kept (c : Account α) : List α := (c.settled.filter (·.1 ≠ .dropped)).map (·.2)

/-- Every event that was dealt with met with one fate. -/
theorem length_settled (c : Account α) :
    c.settled.length = c.count .returned + c.count .rejected + c.count .dropped := by
  unfold count
  induction c.settled with
  | nil => rfl
  | cons entry rest ih =>
    obtain ⟨fate, a⟩ := entry
    cases fate <;> simp [ih] <;> omega

/-- What a read has to answer. -/
inductive Answers (accepts : α → Bool) (closed : Bool) (c : Account α) : Received α → Prop where
  | lagged (missed : c.unreported ≠ 0) : Answers accepts closed c (.lagged c.unreported)
  | event {a : α} (told : c.unreported = 0) (first : c.waiting.find? accepts = some a) :
    Answers accepts closed c (.event a)
  | empty (told : c.unreported = 0) (none : ∀ a ∈ c.waiting, accepts a = false)
    (goesOn : closed = false) : Answers accepts closed c .empty
  | closed (told : c.unreported = 0) (none : ∀ a ∈ c.waiting, accepts a = false)
    (ended : closed = true) : Answers accepts closed c .closed

end Account

namespace Receiver

variable {r : Receiver} {bus : Bus α}

theorem tryRecv_of_missed (missed : r.next < bus.dropped) :
    r.tryRecv bus = (.lagged (bus.dropped - r.next), ⟨bus.dropped⟩) :=
  if_pos missed

theorem tryRecv_of_unread {a : α} {rest : List α} (current : bus.dropped ≤ r.next)
    (unread : bus.history.toList.drop r.next = a :: rest) :
    r.tryRecv bus = (.event a, ⟨r.next + 1⟩) := by
  have there : bus.history[r.next]? = some a := by
    have first := congrArg List.head? unread
    rw [List.head?_drop, Array.getElem?_toList] at first
    exact first
  rw [tryRecv, if_neg (Nat.not_lt.mpr current), there]

theorem tryRecv_of_read (current : bus.dropped ≤ r.next)
    (unread : bus.history.toList.drop r.next = []) :
    r.tryRecv bus = (if bus.closed then .closed else .empty, r) := by
  have none : bus.history[r.next]? = none := by
    have first := congrArg List.head? unread
    rw [List.head?_drop, Array.getElem?_toList] at first
    exact first
  rw [tryRecv, if_neg (Nat.not_lt.mpr current), none]

end Receiver

namespace EventStream

variable {s : EventStream α} {bus : Bus α}

theorem tryRecv_of_missed (missed : s.receiver.next < bus.dropped) :
    s.tryRecv bus =
      (.lagged (bus.dropped - s.receiver.next), { s with receiver := ⟨bus.dropped⟩ }) := by
  have read := Receiver.tryRecv_of_missed missed
  rw [tryRecv]
  split <;> simp_all

/-- A stream that missed nothing passes over what it does not accept and takes the next event. -/
theorem tryRecv_of_accepted {a : α} {rejected rest : List α}
    (current : bus.dropped ≤ s.receiver.next)
    (unread : bus.history.toList.drop s.receiver.next = rejected ++ a :: rest)
    (rejects : ∀ b ∈ rejected, s.accepts b = false) (accepted : s.accepts a = true) :
    s.tryRecv bus =
      (.event a, { s with receiver := ⟨s.receiver.next + rejected.length + 1⟩ }) := by
  induction rejected generalizing s with
  | nil =>
    have read := Receiver.tryRecv_of_unread current unread
    rw [tryRecv]
    split <;> simp_all
  | cons b more ih =>
    have read := Receiver.tryRecv_of_unread current unread
    have rejected : s.accepts b = false := rejects b List.mem_cons_self
    have behind : bus.history.toList.drop (s.receiver.next + 1) = more ++ a :: rest := by
      rw [← List.tail_drop, unread]
      rfl
    have later := ih (s := { s with receiver := ⟨s.receiver.next + 1⟩ }) (by simp; omega) behind
      (fun b mem => rejects b (List.mem_cons_of_mem _ mem)) accepted
    rw [tryRecv]
    split <;> simp_all [Nat.add_comm, Nat.add_left_comm]

/-- A stream that missed nothing, and accepts nothing of what it has not read, reads all of it. -/
theorem tryRecv_of_rejected {rejected : List α} (current : bus.dropped ≤ s.receiver.next)
    (unread : bus.history.toList.drop s.receiver.next = rejected)
    (rejects : ∀ b ∈ rejected, s.accepts b = false) :
    s.tryRecv bus = (if bus.closed then .closed else .empty,
      { s with receiver := ⟨s.receiver.next + rejected.length⟩ }) := by
  induction rejected generalizing s with
  | nil =>
    have read := Receiver.tryRecv_of_read current unread
    cases ended : bus.closed <;>
    · rw [ended] at read
      rw [tryRecv]
      split <;> simp_all
  | cons b more ih =>
    have read := Receiver.tryRecv_of_unread current unread
    have rejected : s.accepts b = false := rejects b List.mem_cons_self
    have behind : bus.history.toList.drop (s.receiver.next + 1) = more := by
      rw [← List.tail_drop, unread]
      rfl
    have later := ih (s := { s with receiver := ⟨s.receiver.next + 1⟩ }) (by simp; omega) behind
      (fun b mem => rejects b (List.mem_cons_of_mem _ mem))
    rw [tryRecv]
    split <;> simp_all [Nat.add_comm, Nat.add_left_comm]

end EventStream

namespace Tuned

def step (s : Tuned α) : Happening α → Tuned α
  | .announced a => { s with bus := s.bus.emit a }
  | .read =>
    let (answer, stream) := s.stream.tryRecv s.bus
    { s with stream, answers := s.answers ++ [answer] }
  | .closed => { s with bus := { s.bus with closed := true } }

def after (s : Tuned α) (happenings : List (Happening α)) : Tuned α := happenings.foldl step s

/-- The events that the stream returned, in order. -/
def events (s : Tuned α) : List α := s.answers.filterMap Received.event?

/-- The number of events that the stream was told it missed. -/
def missed (s : Tuned α) : Nat := s.answers.foldl (fun missed answer => missed + answer.missed) 0

/-- A stream is as an account of the announcements has it. -/
structure Follows (capacity : Nat) (accepts : α → Bool) (announced : List α) (s : Tuned α)
    (c : Account α) : Prop where
  capacity : s.bus.capacity = capacity
  subscribed : s.bus.subscribers ≠ 0
  filter : s.stream.accepts = accepts
  behind : s.stream.receiver.next ≤ s.bus.history.size
  unreported : c.unreported = s.bus.dropped - s.stream.receiver.next
  waiting : c.waiting = s.bus.history.toList.drop (s.stream.receiver.next + c.unreported)
  whole : c.settled.map (·.2) ++ c.waiting = announced
  returned : s.events = (c.settled.filter (·.1 = .returned)).map (·.2)
  missed : s.missed + c.unreported = c.count .dropped
  fair : ∀ entry ∈ c.settled, (entry.1 = .returned → accepts entry.2 = true) ∧
    (entry.1 = .rejected → accepts entry.2 = false)

variable {capacity : Nat} {accepts : α → Bool} {announced : List α} {s : Tuned α} {c : Account α}

theorem follows_tune (bus : Bus α) (filter : Option (α → Bool)) :
    (bus.tune filter).Follows bus.capacity (fun a => filter.all (· a)) [] {} where
  capacity := rfl
  subscribed := Nat.succ_ne_zero _
  filter := rfl
  behind := Nat.le_refl _
  unreported := (Nat.sub_eq_zero_of_le (Nat.sub_le ..)).symm
  waiting := List.drop_length.symm
  whole := rfl
  returned := rfl
  missed := rfl
  fair := nofun

/-- An event that comes waits, or takes the place of the oldest one that waits. -/
theorem Follows.announce (follows : s.Follows capacity accepts announced c) (a : α) :
    (s.step (.announced a)).Follows capacity accepts (announced ++ [a])
      (c.announce capacity a) := by
  obtain ⟨rfl, subscribed, filter, behind, unreported, waiting, whole, returned, missed, fair⟩ :=
    follows
  have pushed : s.step (.announced a) =
      { s with bus := { s.bus with history := s.bus.history.push a } } := by
    simp [step, Bus.emit, Bus.emit?, subscribed]
  have length : c.waiting.length = s.bus.history.size -
      (s.stream.receiver.next + c.unreported) := by
    rw [waiting, List.length_drop, Array.length_toList]
  simp only [Bus.dropped] at unreported
  have appended : (s.bus.history.push a).toList.drop (s.stream.receiver.next + c.unreported) =
      c.waiting ++ [a] := by
    rw [waiting, Array.toList_push, List.drop_append_of_le_length]
    rw [Array.length_toList]
    omega
  rw [pushed, Account.announce]
  dsimp only
  rw [List.length_append, List.length_singleton]
  by_cases room : c.waiting.length + 1 ≤ s.bus.capacity
  · rw [if_pos room]
    refine ⟨rfl, subscribed, filter, ?_, ?_, appended.symm, ?_, returned, missed, fair⟩
    · simp only [Array.size_push]
      omega
    · simp only [Bus.dropped, Array.size_push]
      omega
    · rw [← List.append_assoc, whole]
  · rw [if_neg room]
    have one : ((c.waiting ++ [a]).take 1).length = 1 := by simp
    refine ⟨rfl, subscribed, filter, ?_, ?_, ?_, ?_, ?_, ?_, ?_⟩
    · simp only [Array.size_push]
      omega
    · simp only [Bus.dropped, Array.size_push]
      omega
    · show (c.waiting ++ [a]).drop 1 = _
      rw [← appended, List.drop_drop]
      rfl
    · rw [List.map_append, Fate.map_of, List.append_assoc, List.take_append_drop,
        ← List.append_assoc, whole]
    · rw [List.filter_append, Fate.filter_of, if_neg (by decide), List.append_nil]
      exact returned
    · rw [Account.count, List.countP_append, Fate.countP_of, if_pos rfl, one]
      exact congrArg (· + 1) missed
    · intro entry mem
      rcases List.mem_append.mp mem with mem | mem
      · exact fair entry mem
      · rw [(Fate.eq_of_mem _ _ mem).1]
        exact ⟨fun same => absurd same (by decide), fun same => absurd same (by decide)⟩

theorem step_read {answer : Received α} {stream : EventStream α}
    (h : s.stream.tryRecv s.bus = (answer, stream)) :
    s.step .read = { s with stream, answers := s.answers ++ [answer] } := by
  rw [step, h]

theorem events_step_read {answer : Received α} {stream : EventStream α}
    (h : s.stream.tryRecv s.bus = (answer, stream)) :
    (s.step .read).events = s.events ++ answer.event?.toList := by
  rw [step_read h, events, List.filterMap_append]
  cases answer <;> rfl

theorem missed_step_read {answer : Received α} {stream : EventStream α}
    (h : s.stream.tryRecv s.bus = (answer, stream)) :
    (s.step .read).missed = s.missed + answer.missed := by
  rw [step_read h, Tuned.missed, List.foldl_append]
  rfl

/-- A stream that missed something is told so, whatever its filter is. -/
theorem Follows.read_missed (follows : s.Follows capacity accepts announced c)
    (missed : c.unreported ≠ 0) :
    c.Answers accepts s.bus.closed (s.stream.tryRecv s.bus).1 ∧
    (s.step .read).Follows capacity accepts announced (c.read accepts) := by
  have unreported := follows.unreported
  have behind : s.stream.receiver.next < s.bus.dropped := by omega
  have answer := EventStream.tryRecv_of_missed behind
  rw [← unreported] at answer
  have events := events_step_read answer
  have sum := missed_step_read answer
  rw [step_read answer] at events sum ⊢
  rw [answer, Account.read, if_pos missed]
  refine ⟨.lagged missed, follows.capacity, follows.subscribed, follows.filter, Nat.sub_le ..,
    (Nat.sub_self _).symm, ?_, follows.whole, ?_, ?_, follows.fair⟩
  · have place : s.stream.receiver.next + c.unreported = s.bus.dropped := by omega
    rw [← place]
    exact follows.waiting
  · rw [events, follows.returned]
    exact List.append_nil _
  · rw [sum]
    exact follows.missed

/-- A stream passes over some of the events that wait, and returns those that it takes. -/
theorem Follows.take (follows : s.Follows capacity accepts announced c) (told : c.unreported = 0)
    {answer : Received α} {rejected taken left : List α}
    (cut : c.waiting = rejected ++ (taken ++ left))
    (read : s.stream.tryRecv s.bus = (answer, { s.stream with
      receiver := ⟨s.stream.receiver.next + rejected.length + taken.length⟩ }))
    (rejects : ∀ a ∈ rejected, accepts a = false)
    (accepted : ∀ a ∈ taken, accepts a = true) (given : answer.event?.toList = taken)
    (nothing : answer.missed = 0) :
    (s.step .read).Follows capacity accepts announced { c with
      settled := c.settled ++ (Fate.rejected.of rejected ++ Fate.returned.of taken)
      waiting := left } := by
  obtain ⟨same, subscribed, filter, behind, unreported, waiting, whole, returned, missed, fair⟩ :=
    follows
  have events := events_step_read read
  have sum := missed_step_read read
  have length : c.waiting.length = s.bus.history.size - s.stream.receiver.next := by
    rw [waiting, List.length_drop, Array.length_toList, told, Nat.add_zero]
  rw [cut, List.length_append, List.length_append] at length
  rw [told, Nat.add_zero] at waiting
  rw [step_read read] at events sum ⊢
  refine ⟨same, subscribed, filter, ?_, ?_, ?_, ?_, ?_, ?_, ?_⟩
  · show s.stream.receiver.next + rejected.length + taken.length ≤ s.bus.history.size
    omega
  · show c.unreported = s.bus.dropped - (s.stream.receiver.next + rejected.length + taken.length)
    omega
  · have place : s.stream.receiver.next + rejected.length + taken.length + c.unreported =
        s.stream.receiver.next + (rejected ++ taken).length := by
      rw [told, List.length_append, Nat.add_zero, Nat.add_assoc]
    show left = _
    rw [place, ← List.drop_drop, ← waiting, cut, ← List.append_assoc, List.drop_left]
  · rw [← whole, cut]
    simp
  · rw [events, returned, given]
    simp
  · rw [sum, nothing, Nat.add_zero, Account.count, List.countP_append, List.countP_append,
      Fate.countP_of, Fate.countP_of]
    exact missed
  · intro entry mem
    rcases List.mem_append.mp mem with mem | mem
    · exact fair entry mem
    · rcases List.mem_append.mp mem with mem | mem
      · obtain ⟨own, there⟩ := Fate.eq_of_mem _ _ mem
        rw [own]
        exact ⟨nofun, fun _ => rejects _ there⟩
      · obtain ⟨own, there⟩ := Fate.eq_of_mem _ _ mem
        rw [own]
        exact ⟨fun _ => accepted _ there, nofun⟩

/-- A stream that missed nothing takes the first event that it accepts, or passes over all. -/
theorem Follows.read_current (follows : s.Follows capacity accepts announced c)
    (told : c.unreported = 0) :
    c.Answers accepts s.bus.closed (s.stream.tryRecv s.bus).1 ∧
    (s.step .read).Follows capacity accepts announced (c.read accepts) := by
  have unreported := follows.unreported
  have filter := follows.filter
  have unread := follows.waiting
  rw [told, Nat.add_zero] at unread
  have current : s.bus.dropped ≤ s.stream.receiver.next := by omega
  have cut : c.waiting.takeWhile (!accepts ·) ++ c.waiting.dropWhile (!accepts ·) = c.waiting :=
    List.takeWhile_append_dropWhile
  have rejects : ∀ b ∈ c.waiting.takeWhile (!accepts ·), accepts b = false := by
    intro b mem
    simpa using List.all_eq_true.mp (List.all_takeWhile (p := (!accepts ·))) b mem
  have first := List.head?_dropWhile_not (!accepts ·) c.waiting
  rw [Account.read, if_neg (fun missed => missed told)]
  dsimp only
  generalize c.waiting.takeWhile (!accepts ·) = rejected at cut rejects ⊢
  cases rest : c.waiting.dropWhile (!accepts ·) with
  | nil =>
    rw [rest, List.append_nil] at cut
    subst cut
    have read := EventStream.tryRecv_of_rejected current unread.symm (by rwa [filter])
    have answers : c.Answers accepts s.bus.closed (if s.bus.closed then .closed else .empty) := by
      cases ended : s.bus.closed with
      | true => exact .closed told rejects rfl
      | false => exact .empty told rejects rfl
    have all : c.waiting = c.waiting ++ ([] ++ []) := (List.append_nil _).symm
    refine ⟨read ▸ answers, follows.take told all read rejects nofun ?_ ?_⟩
    · cases s.bus.closed <;> rfl
    · cases s.bus.closed <;> rfl
  | cons a more =>
    rw [rest] at cut first
    have accepted : accepts a = true := by simpa using first
    have read := EventStream.tryRecv_of_accepted current (unread.symm.trans cut.symm)
      (by rwa [filter]) (by rwa [filter])
    have found : c.waiting.find? accepts = some a :=
      List.find?_eq_some_iff_append.mpr ⟨accepted, rejected, more, cut.symm, fun b mem => by
        rw [rejects b mem]
        rfl⟩
    have one : c.waiting = rejected ++ ([a] ++ more) := cut.symm
    refine ⟨read ▸ .event told found, follows.take told one read rejects ?_ rfl rfl⟩
    intro b mem
    rwa [List.mem_singleton.mp mem]

theorem Follows.read (follows : s.Follows capacity accepts announced c) :
    c.Answers accepts s.bus.closed (s.stream.tryRecv s.bus).1 ∧
    (s.step .read).Follows capacity accepts announced (c.read accepts) := by
  by_cases told : c.unreported = 0
  · exact follows.read_current told
  · exact follows.read_missed told

theorem Follows.step (follows : s.Follows capacity accepts announced c) (happening : Happening α) :
    (s.step happening).Follows capacity accepts (announced ++ happening.announced?.toList)
      (c.step capacity accepts happening) := by
  have nothing : announced = announced ++ (none : Option α).toList := (List.append_nil _).symm
  cases happening with
  | announced a => exact follows.announce a
  | read => exact nothing ▸ follows.read.2
  | closed => exact nothing ▸ { follows with }

theorem Follows.after (follows : s.Follows capacity accepts announced c)
    (happenings : List (Happening α)) :
    (s.after happenings).Follows capacity accepts
      (announced ++ happenings.filterMap Happening.announced?)
      (happenings.foldl (Account.step capacity accepts) c) := by
  induction happenings generalizing s c announced with
  | nil =>
    rw [List.filterMap_nil, List.append_nil]
    exact follows
  | cons first rest ih =>
    have later := ih (follows.step first)
    rw [List.append_assoc] at later
    have both : first.announced?.toList ++ rest.filterMap Happening.announced? =
        (first :: rest).filterMap Happening.announced? := by
      cases first <;> rfl
    rw [← both]
    exact later

/-- What was returned is what was not dropped and is accepted. -/
theorem Follows.events (follows : s.Follows capacity accepts announced c) :
    s.events = c.kept.filter accepts := by
  rw [follows.returned, Account.kept, List.filter_map, List.filter_filter]
  congr 1
  refine List.filter_congr fun entry mem => ?_
  obtain ⟨returned, rejected⟩ := follows.fair entry mem
  obtain ⟨fate, a⟩ := entry
  cases fate <;> simp_all

/-- The books of a stream balance at any time. -/
theorem Follows.balance (follows : s.Follows capacity accepts announced c) :
    s.events.length + c.count .rejected + s.missed + (c.unreported + c.waiting.length) =
      announced.length := by
  have returned : s.events.length = c.count .returned := by
    rw [follows.returned, List.length_map, ← List.countP_eq_length_filter]
    rfl
  have missed := follows.missed
  have settled := c.length_settled
  rw [← follows.whole, List.length_append, List.length_map]
  omega

/-- Once a read finds nothing, nothing is left. -/
theorem Follows.balance_of_drained (follows : s.Follows capacity accepts announced c)
    (drained : (s.stream.tryRecv s.bus).1 = .empty ∨ (s.stream.tryRecv s.bus).1 = .closed) :
    (s.step .read).events.length + (c.read accepts).count .rejected + (s.step .read).missed =
      announced.length := by
  obtain ⟨answers, after⟩ := follows.read
  have nothing : c.unreported = 0 ∧ ∀ a ∈ c.waiting, accepts a = false := by
    rcases drained with found | found <;> rw [found] at answers
    · cases answers with
      | empty told none => exact ⟨told, none⟩
    · cases answers with
      | closed told none => exact ⟨told, none⟩
  obtain ⟨told, none⟩ := nothing
  have passed : c.waiting.dropWhile (!accepts ·) = [] :=
    List.dropWhile_eq_nil_iff.mpr fun a mem => by rw [none a mem]; rfl
  have left : (c.read accepts).unreported + (c.read accepts).waiting.length = 0 := by
    rw [Account.read, if_neg (fun missed => missed told), passed, told]
    rfl
  have balance := after.balance
  omega

end Tuned

/-- Nothing gets lost without a word between a bus and a stream, whatever was announced before the
stream came and however many others there are. The stream returns those events that were not dropped
and that it accepts, once and in order. A read tells how many were missed, or else finds the first
event that is accepted, and finds nothing, or the end, only if there is none. What was returned,
rejected and missed is all that was announced, when a read finds nothing, and short of what waits
and what is to be reported before. -/
theorem nothing_lost_silently {requested : Nat} {fresh : Bus α}
    (opened : Bus.create? requested = some fresh) (history : Array α) (others : Nat)
    (filter : Option (α → Bool)) (happenings : List (Happening α)) :
    let accepts a := filter.all (· a)
    let s := (Bus.tune { fresh with history, subscribers := others } filter).after happenings
    let c := Account.after requested.nextPowerOfTwo accepts happenings
    let announced := happenings.filterMap Happening.announced?
    c.settled.map (·.2) ++ c.waiting = announced ∧
    c.waiting = s.bus.history.toList.drop (max s.stream.receiver.next s.bus.dropped) ∧
    s.events = c.kept.filter accepts ∧
    c.Answers accepts s.bus.closed (s.stream.tryRecv s.bus).1 ∧
    s.missed + c.unreported = c.count .dropped ∧
    s.events.length + c.count .rejected + s.missed + (c.unreported + c.waiting.length) =
      announced.length ∧
    ((s.stream.tryRecv s.bus).1 = .empty ∨ (s.stream.tryRecv s.bus).1 = .closed →
      (s.step .read).events.length + (c.read accepts).count .rejected + (s.step .read).missed =
        announced.length) := by
  intro accepts s c announced
  have made : { capacity := requested.nextPowerOfTwo } = fresh := by
    unfold Bus.create? at opened
    split at opened
    · contradiction
    · exact Option.some.inj opened
  subst made
  have follows : s.Follows requested.nextPowerOfTwo accepts announced c :=
    (Tuned.follows_tune
      { capacity := requested.nextPowerOfTwo, history, subscribers := others } filter).after
      happenings
  refine ⟨follows.whole, ?_, follows.events, follows.read.1, follows.missed, follows.balance,
    follows.balance_of_drained⟩
  have unreported := follows.unreported
  rw [follows.waiting]
  congr 1
  omega

/-- Four events at a bus that keeps two of them, for a stream that takes even numbers. -/
def overrun : List (Happening Nat) :=
  [.announced 1, .announced 2, .announced 3, .announced 4, .read, .read, .announced 5]

/-- Two are missed, one is returned, two are rejected, and then there is nothing to be found. -/
theorem nothing_lost_silently_overrun :
    Bus.create? 2 = some ({ capacity := 2 } : Bus Nat) ∧
    let s := (Bus.tune { capacity := 2, history := #[0], subscribers := 1 }
      (some (· % 2 == 0))).after overrun
    s.events = [4] ∧ s.missed = 2 ∧ (s.stream.tryRecv s.bus).1 = .empty ∧
    (s.step .read).events.length + 2 + (s.step .read).missed = 5 := by
  have two : Nat.nextPowerOfTwo 2 = 2 := by decide +kernel
  have opened : Bus.create? 2 = some ({ capacity := 2 } : Bus Nat) := by
    rw [Bus.create?, if_neg (by decide), two]
  refine ⟨opened, ?_⟩
  obtain ⟨-, -, events, answers, missed, -, drained⟩ :=
    nothing_lost_silently opened #[0] 1 (some (· % 2 == 0)) overrun
  rw [two] at events answers missed drained
  have account : Account.after 2 (fun n => (some (· % 2 == 0)).all (· n)) overrun =
      { settled := [(.dropped, 1), (.dropped, 2), (.rejected, 3), (.returned, 4)]
        waiting := [5] } :=
    rfl
  rw [account] at events answers missed drained
  intro s
  have nothing : (s.stream.tryRecv s.bus).1 = .empty := by
    generalize (s.stream.tryRecv s.bus).1 = answer at answers
    cases answers with
    | lagged missed => exact absurd rfl missed
    | event told first => simp at first
    | empty => rfl
    | closed told none ended => exact absurd ended (by decide)
  exact ⟨events, missed, nothing, drained (.inl nothing)⟩

end MediaPlayback
