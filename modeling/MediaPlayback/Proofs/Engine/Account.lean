import MediaPlayback.Engine.World

/-! What a trace says of the host's property: which session is the live one, whether audio focus is
held, which prepares were started. `Holding.Takes` lists the effects that an engine with a holding
may have and what each of them makes of the holding, and what a trace says agrees with the holding
after every such effect. Traces hold the last effect first. -/

namespace MediaPlayback

/-- The session that a call uses. To unload a session is not to use it. -/
def HostCall.used? : HostCall → Option SessionId
  | .play session | .pause session | .seek session _ | .position session => some session
  | _ => none

namespace Effect

variable {L : Type}

/-- Whether an effect neither moves a session, focus or a prepare nor uses a session. -/
def isAside : Effect L → Bool
  | .called (.unload _) _ | .called .requestFocus _ | .called .abandonFocus _ => false
  | .called call _ => call.used?.isNone
  | .started _ | .adopted _ => false
  | _ => true

/-- The live session: the one adopted last, unless it was unloaded since. -/
def liveIn : List (Effect L) → Option SessionId
  | [] => none
  | .adopted session :: _ => some session
  | .called (.unload session) _ :: earlier =>
    if liveIn earlier = some session then none else liveIn earlier
  | _ :: earlier => liveIn earlier

/-- Whether audio focus is held: the last request was granted and focus was not abandoned since. -/
def focusIn : List (Effect L) → Bool
  | [] => false
  | .called .requestFocus (.ok .granted) :: _ => true
  | .called .requestFocus _ :: _ => false
  | .called .abandonFocus _ :: _ => false
  | _ :: earlier => focusIn earlier

/-- The prepares that were started, the last one first. -/
def startsIn (trace : List (Effect L)) : List PrepareTask :=
  trace.filterMap fun
    | .started task => some task
    | _ => none

/-- Whether an effect is a call that unloads a session. -/
def unloads (session : SessionId) : Effect L → Bool
  | .called (.unload unloaded) _ => unloaded = session
  | _ => false

/-- How often a session was unloaded. -/
def unloadsIn (session : SessionId) (trace : List (Effect L)) : Nat :=
  trace.countP (unloads session)

/-- Every session was used only while it was the live one. -/
def UsedLive (trace : List (Effect L)) : Prop :=
  ∀ later call result earlier session, trace = later ++ .called call result :: earlier →
    call.used? = some session → liveIn earlier = some session

variable {effect : Effect L} {earlier : List (Effect L)}

theorem liveIn_aside (aside : effect.isAside) : liveIn (effect :: earlier) = liveIn earlier := by
  cases effect with
  | called call result => cases call <;> first | rfl | contradiction
  | adopted session => contradiction
  | started task => contradiction
  | _ => rfl

theorem focusIn_aside (aside : effect.isAside) : focusIn (effect :: earlier) = focusIn earlier := by
  cases effect with
  | called call result => cases call <;> first | rfl | contradiction
  | adopted session => contradiction
  | started task => contradiction
  | _ => rfl

theorem startsIn_aside (aside : effect.isAside) :
    startsIn (effect :: earlier) = startsIn earlier := by
  cases effect with
  | started task => contradiction
  | _ => rfl

theorem unloadsIn_aside (session : SessionId) (aside : effect.isAside) :
    unloadsIn session (effect :: earlier) = unloadsIn session earlier := by
  apply List.countP_cons_of_neg
  cases effect with
  | called call result => cases call <;> first | contradiction | simp [unloads]
  | _ => simp [unloads]

theorem startsIn_asides {effects : List (Effect L)} (asides : ∀ effect ∈ effects, effect.isAside) :
    startsIn (effects ++ earlier) = startsIn earlier := by
  induction effects with
  | nil => rfl
  | cons effect rest ih =>
    exact (startsIn_aside (asides effect List.mem_cons_self)).trans
      (ih fun e mem => asides e (List.mem_cons_of_mem _ mem))

theorem unloadsIn_asides (session : SessionId) {effects : List (Effect L)}
    (asides : ∀ effect ∈ effects, effect.isAside) :
    unloadsIn session (effects ++ earlier) = unloadsIn session earlier := by
  induction effects with
  | nil => rfl
  | cons effect rest ih =>
    exact (unloadsIn_aside session (asides effect List.mem_cons_self)).trans
      (ih fun e mem => asides e (List.mem_cons_of_mem _ mem))

theorem startsIn_append (later earlier : List (Effect L)) :
    startsIn (later ++ earlier) = startsIn later ++ startsIn earlier :=
  List.filterMap_append

/-- An effect keeps sessions used only while live if it is a use of the live session or no use. -/
theorem UsedLive.cons (used : UsedLive earlier)
    (lawful : ∀ call result session, effect = .called call result → call.used? = some session →
      liveIn earlier = some session) : UsedLive (effect :: earlier) := by
  intro later call result before session split uses
  cases later with
  | nil =>
    obtain ⟨same, rfl⟩ := List.cons.inj split
    exact lawful call result session same uses
  | cons last later =>
    have split := (List.cons.inj split).2
    exact used later call result before session split uses

end Effect

/-- What an engine has of the host's, and what it awaits. -/
structure Holding where
  /-- A prepared session that was handed to the engine, which has neither adopted nor discarded
  it. -/
  hand : Option SessionId
  live : Option SessionId
  focused : Bool
  /-- How many prepares were started. -/
  requests : Nat
  /-- The request that is awaited, and its item. -/
  awaited : Option (Nat × Item)

namespace Holding

variable {L : Type}

/-- The effects that an engine may have, and what each makes of its holding. -/
inductive Takes (h : Holding) : Effect L → Holding → Prop where
  | aside {effect : Effect L} (aside : effect.isAside) : Takes h effect h
  | used {call : HostCall} {result : call.Result} {session : SessionId}
    (uses : call.used? = some session) (live : h.live = some session) :
    Takes h (.called call result) h
  | adopted {session : SessionId} (given : h.hand = some session) (free : h.live = none) :
    Takes h (.adopted session) { h with hand := none, live := some session }
  | unloaded {session : SessionId} {result : (HostCall.unload session).Result}
    (live : h.live = some session) :
    Takes h (.called (.unload session) result) { h with live := none }
  | discarded {session : SessionId} {result : (HostCall.unload session).Result}
    (given : h.hand = some session) (other : h.live ≠ some session) :
    Takes h (.called (.unload session) result) { h with hand := none }
  | granted (free : h.focused = false) :
    Takes h (.called .requestFocus (.ok .granted)) { h with focused := true }
  | refused {result : HostCall.requestFocus.Result} (free : h.focused = false)
    (refused : result ≠ .ok .granted) : Takes h (.called .requestFocus result) h
  | abandoned {result : HostCall.abandonFocus.Result} (held : h.focused = true) :
    Takes h (.called .abandonFocus result) { h with focused := false }
  | started {task : PrepareTask} (next : task.request = h.requests + 1) :
    Takes h (.started task)
      { h with requests := h.requests + 1, awaited := some (task.request, task.item) }

/-- A course of effects from one holding to another, the last effect first. The engine may give up
at any time what it awaits. -/
inductive Comes (h : Holding) : List (Effect L) → Holding → Prop where
  | refl : Comes h [] h
  | step {effects : List (Effect L)} {effect : Effect L} {h' h'' : Holding}
    (before : Comes h effects h') (takes : h'.Takes effect h'') : Comes h (effect :: effects) h''
  | forgets {effects : List (Effect L)} {h' : Holding} (before : Comes h effects h') :
    Comes h effects { h' with awaited := none }

theorem Comes.asides (h : Holding) {effects : List (Effect L)}
    (asides : ∀ effect ∈ effects, effect.isAside) : h.Comes effects h := by
  induction effects with
  | nil => exact .refl
  | cons effect rest ih =>
    exact (ih fun e mem => asides e (List.mem_cons_of_mem _ mem)).step
      (.aside (asides effect List.mem_cons_self))

theorem Comes.trans {h h' h'' : Holding} {first second : List (Effect L)}
    (before : h.Comes first h') (after : h'.Comes second h'') : h.Comes (second ++ first) h'' := by
  induction after with
  | refl => exact before
  | step _ takes ih => exact ih.step takes
  | forgets _ ih => exact ih.forgets

/-- What a trace says of focus and of starts agrees with a holding. -/
structure Accounts (h : Holding) (trace : List (Effect L)) : Prop where
  focused : Effect.focusIn trace = h.focused
  requests : (Effect.startsIn trace).reverse.map (·.request) = List.range' 1 h.requests
  awaited : ∀ id item, h.awaited = some (id, item) → ∃ task earlier,
    Effect.startsIn trace = task :: earlier ∧ task.request = id ∧ task.item = item

/-- What a trace says of sessions agrees with a holding, and sessions were used only while live. -/
structure Owns (h : Holding) (trace : List (Effect L)) : Prop where
  live : Effect.liveIn trace = h.live
  used : Effect.UsedLive trace

/-- How often a session came to the engine and how often it went: the unloads of the session, and
one for each place that still has it. -/
def tally (h : Holding) (session : SessionId) (trace : List (Effect L)) : Nat :=
  Effect.unloadsIn session trace + (if h.live = some session then 1 else 0) +
    if h.hand = some session then 1 else 0

variable {h h' : Holding} {effect : Effect L} {trace : List (Effect L)}

theorem Accounts.takes (accounts : h.Accounts trace) (takes : h.Takes effect h') :
    h'.Accounts (effect :: trace) := by
  obtain ⟨focused, requests, awaited⟩ := accounts
  cases takes with
  | aside aside =>
    refine ⟨?_, ?_, ?_⟩
    · rw [Effect.focusIn_aside aside, focused]
    · rw [Effect.startsIn_aside aside, requests]
    · rw [Effect.startsIn_aside aside]
      exact awaited
  | @used call result session uses live =>
    cases call with
    | play | pause | seek | position => exact ⟨focused, requests, awaited⟩
    | _ => contradiction
  | adopted | unloaded | discarded => exact ⟨focused, requests, awaited⟩
  | granted => exact ⟨rfl, requests, awaited⟩
  | @refused result free refused =>
    refine ⟨?_, requests, awaited⟩
    rw [free]
    rcases result with e | (_ | _)
    · rfl
    · contradiction
    · rfl
  | abandoned => exact ⟨rfl, requests, awaited⟩
  | @started task next =>
    have starts : Effect.startsIn (.started task :: trace) = task :: Effect.startsIn trace := rfl
    refine ⟨focused, ?_, ?_⟩
    · rw [starts, List.reverse_cons, List.map_append, requests, List.map_singleton, next,
        List.range'_1_concat, Nat.add_comm 1]
    · rintro id item ⟨⟩
      exact ⟨task, Effect.startsIn trace, starts, rfl, rfl⟩

/-- Starts that are accounted for have different numbers. -/
theorem Accounts.nodup (accounts : h.Accounts trace) :
    ((Effect.startsIn trace).map (·.request)).Nodup := by
  have numbers := accounts.requests
  rw [List.map_reverse] at numbers
  rw [← (List.reverse_perm _).nodup_iff, numbers]
  exact List.nodup_range'

theorem Owns.takes (owns : h.Owns trace) (takes : h.Takes effect h') :
    h'.Owns (effect :: trace) := by
  obtain ⟨live, used⟩ := owns
  cases takes with
  | aside aside =>
    refine ⟨(Effect.liveIn_aside aside).trans live, used.cons ?_⟩
    rintro call result session rfl uses
    cases call <;> contradiction
  | @used call result session uses holds =>
    have kept : Effect.liveIn (.called call result :: trace) = Effect.liveIn trace := by
      cases call <;> first | rfl | contradiction
    refine ⟨kept.trans live, used.cons ?_⟩
    rintro _ _ _ ⟨⟩ uses'
    rw [live, holds, ← uses, uses']
  | adopted => exact ⟨rfl, used.cons (by rintro _ _ _ ⟨⟩)⟩
  | unloaded holds => exact ⟨if_pos (live.trans holds), used.cons (by rintro _ _ _ ⟨⟩ ⟨⟩)⟩
  | discarded given other =>
    refine ⟨?_, used.cons (by rintro _ _ _ ⟨⟩ ⟨⟩)⟩
    rw [Effect.liveIn, if_neg (live ▸ other)]
    exact live
  | granted | refused | abandoned => exact ⟨live, used.cons (by rintro _ _ _ ⟨⟩ ⟨⟩)⟩
  | started => exact ⟨live, used.cons (by rintro _ _ _ ⟨⟩)⟩

theorem Accounts.comes {effects : List (Effect L)} (accounts : h.Accounts trace)
    (comes : h.Comes effects h') : h'.Accounts (effects ++ trace) := by
  induction comes with
  | refl => exact accounts
  | step _ takes ih => exact ih.takes takes
  | forgets _ ih => exact { ih with awaited := by rintro _ _ ⟨⟩ }

theorem Owns.comes {effects : List (Effect L)} (owns : h.Owns trace)
    (comes : h.Comes effects h') : h'.Owns (effects ++ trace) := by
  induction comes with
  | refl => exact owns
  | step _ takes ih => exact ih.takes takes
  | forgets _ ih => exact ⟨ih.live, ih.used⟩

theorem tally_pos_of_live {session : SessionId} (live : h.live = some session) :
    0 < h.tally session trace := by
  unfold tally
  rw [if_pos live]
  omega

/-- An effect moves a session from one place to another. -/
theorem tally_takes (takes : h.Takes effect h') (session : SessionId) :
    h'.tally session (effect :: trace) = h.tally session trace := by
  have cons := List.countP_cons (p := Effect.unloads session) (a := effect) (l := trace)
  unfold tally
  cases takes with
  | aside aside => rw [Effect.unloadsIn_aside session aside]
  | @used call result _ uses holds =>
    have kept : Effect.unloads session (.called call result : Effect L) = false := by
      cases call <;> first | contradiction | rfl
    rw [Effect.unloadsIn, cons, kept]
    rfl
  | adopted given free => simp [Effect.unloadsIn, Effect.unloads, given, free]
  | @unloaded unloaded result holds =>
    by_cases same : unloaded = session <;> simp [Effect.unloadsIn, Effect.unloads, holds, same]
  | @discarded unloaded result given other =>
    by_cases same : unloaded = session <;>
      simp [Effect.unloadsIn, Effect.unloads, given, same, Nat.add_right_comm]
  | granted => rfl
  | refused => rfl
  | abandoned => rfl
  | started => rfl

/-- A course of effects moves sessions from one place to another. -/
theorem tally_comes {effects : List (Effect L)} (comes : h.Comes effects h')
    (session : SessionId) : h'.tally session (effects ++ trace) = h.tally session trace := by
  induction comes with
  | refl => rfl
  | step _ takes ih => exact (tally_takes takes session).trans ih
  | forgets _ ih => exact ih

/-- Starts are counted. -/
theorem Comes.requests {effects : List (Effect L)} (comes : h.Comes effects h') :
    h'.requests = h.requests + (Effect.startsIn effects).length := by
  induction comes with
  | refl => rfl
  | @step effects effect _ _ before takes ih =>
    cases takes with
    | aside aside => rw [Effect.startsIn_aside aside, ih]
    | started => exact congrArg (· + 1) ih
    | _ => exact ih
  | forgets _ ih => exact ih

/-- Only a start changes what is awaited. -/
theorem Takes.awaited (takes : h.Takes effect h') (trace : List (Effect L)) :
    (∃ task, effect = .started task ∧ h'.awaited = some (task.request, task.item)) ∨
    (Effect.startsIn (effect :: trace) = Effect.startsIn trace ∧ h'.awaited = h.awaited) := by
  cases takes with
  | aside aside => exact .inr ⟨Effect.startsIn_aside aside, rfl⟩
  | @started task next => exact .inl ⟨task, rfl, rfl⟩
  | _ => exact .inr ⟨rfl, rfl⟩

/-- What is awaited after a course was awaited all along, or else it is what was started last. -/
theorem Comes.awaited {effects : List (Effect L)} (comes : h.Comes effects h') {id : Nat}
    {item : Item} (awaits : h'.awaited = some (id, item)) :
    (Effect.startsIn effects = [] ∧ h.awaited = some (id, item)) ∨ ∃ task earlier,
      Effect.startsIn effects = task :: earlier ∧ task.request = id ∧ task.item = item := by
  induction comes with
  | refl => exact .inl ⟨rfl, awaits⟩
  | @step effects effect _ _ before takes ih =>
    rcases takes.awaited effects with ⟨task, rfl, now⟩ | ⟨starts, same⟩
    · obtain ⟨rfl, rfl⟩ := Prod.mk.inj (Option.some.inj (now.symm.trans awaits))
      exact .inr ⟨task, Effect.startsIn effects, rfl, rfl, rfl⟩
    · rw [starts]
      exact ih (same.symm.trans awaits)
  | forgets => contradiction

end Holding
end MediaPlayback
