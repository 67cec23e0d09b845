import MediaPlayback.Proofs.Run

/-! The timed reference of the lifecycle signal. A chronicle lists what was asked of the signal and
when a delay was over, the last occurrence first. What is declared, which delay runs and whether a
departure is to be ignored are read off the chronicle alone, without timers and generations, and the
signal agrees with it after every occurrence. -/

namespace MediaPlayback

/-- What a chronicle is made of: the requests to the signal, and the end of a delay. -/
inductive Occurrence where
  | background
  | foreground
  | ignoreNext
  | shutdown
  | expiry
deriving DecidableEq, Repr

/-- What happened and when, the last occurrence first. -/
abbrev Chronicle := List (Duration × Occurrence)

/-- Whether the last one of some declarations is that the app is in the background. -/
def LifecycleEvent.isLastBackground (events : List (Duration × LifecycleEvent)) : Bool :=
  events.head?.any (·.2 = .becameBackground)

/-- So many declarations in turn, the last one first, of which the first one is a departure. -/
def LifecycleEvent.alternation : Nat → List LifecycleEvent
  | 0 => []
  | n + 1 => (if n % 2 = 0 then .becameBackground else .becameForeground) :: alternation n

namespace Chronicle

mutual

/-- The declarations, the last one first: a departure where a delay is over, unless it is to be
ignored, and a return where the app comes back after a declared departure. -/
def declarations : Chronicle → List (Duration × LifecycleEvent)
  | [] => []
  | (time, .expiry) :: earlier =>
    if ignoring earlier then declarations earlier
    else (time, .becameBackground) :: declarations earlier
  | (time, .foreground) :: earlier =>
    if LifecycleEvent.isLastBackground (declarations earlier) then
      (time, .becameForeground) :: declarations earlier
    else declarations earlier
  | _ :: earlier => declarations earlier

/-- When the delay that runs began: a departure was reported that is not declared, and nothing
occurred since. -/
def since? : Chronicle → Option Duration
  | (time, .background) :: earlier =>
    if LifecycleEvent.isLastBackground (declarations earlier) then none else some time
  | _ => none

/-- Whether it was asked, while no delay ran, to ignore a departure, and none was ignored since. -/
def ignoring : Chronicle → Bool
  | [] => false
  | (_, .ignoreNext) :: earlier => (since? earlier).isNone || ignoring earlier
  | (_, .expiry) :: _ => false
  | _ :: earlier => ignoring earlier

end

/-- Whether the last declaration is that the app is in the background. -/
def declared (h : Chronicle) : Bool := LifecycleEvent.isLastBackground h.declarations

variable {h : Chronicle} {time start : Duration}

@[simp] theorem declarations_background :
    declarations ((time, .background) :: h) = h.declarations := rfl

@[simp] theorem declarations_ignoreNext :
    declarations ((time, .ignoreNext) :: h) = h.declarations := rfl

@[simp] theorem declarations_shutdown :
    declarations ((time, .shutdown) :: h) = h.declarations := rfl

@[simp] theorem declarations_foreground : declarations ((time, .foreground) :: h) =
    if h.declared then (time, .becameForeground) :: h.declarations else h.declarations := rfl

@[simp] theorem declarations_expiry : declarations ((time, .expiry) :: h) =
    if h.ignoring then h.declarations else (time, .becameBackground) :: h.declarations := rfl

@[simp] theorem declared_background : declared ((time, .background) :: h) = h.declared := rfl

@[simp] theorem declared_ignoreNext : declared ((time, .ignoreNext) :: h) = h.declared := rfl

@[simp] theorem declared_shutdown : declared ((time, .shutdown) :: h) = h.declared := rfl

@[simp] theorem declared_foreground : declared ((time, .foreground) :: h) = false := by
  rw [declared, declarations_foreground]
  split
  case isTrue => rfl
  case isFalse undeclared => exact Bool.eq_false_iff.mpr undeclared

@[simp] theorem declared_expiry :
    declared ((time, .expiry) :: h) = (!h.ignoring || h.declared) := by
  rw [declared, declarations_expiry]
  cases h.ignoring <;> rfl

@[simp] theorem since_background :
    since? ((time, .background) :: h) = if h.declared then none else some time := rfl

@[simp] theorem since_foreground : since? ((time, .foreground) :: h) = none := rfl

@[simp] theorem since_ignoreNext : since? ((time, .ignoreNext) :: h) = none := rfl

@[simp] theorem since_shutdown : since? ((time, .shutdown) :: h) = none := rfl

@[simp] theorem since_expiry : since? ((time, .expiry) :: h) = none := rfl

@[simp] theorem ignoring_ignoreNext :
    ignoring ((time, .ignoreNext) :: h) = (h.since?.isNone || h.ignoring) := rfl

@[simp] theorem ignoring_expiry : ignoring ((time, .expiry) :: h) = false := rfl

@[simp] theorem ignoring_background : ignoring ((time, .background) :: h) = h.ignoring := rfl

@[simp] theorem ignoring_foreground : ignoring ((time, .foreground) :: h) = h.ignoring := rfl

@[simp] theorem ignoring_shutdown : ignoring ((time, .shutdown) :: h) = h.ignoring := rfl

/-- A delay runs since a departure was reported that was not declared, and nothing else occurred
since. -/
theorem since_eq_some_iff : h.since? = some start ↔
    ∃ earlier, h = (start, .background) :: earlier ∧ declared earlier = false := by
  constructor
  · intro running
    match h with
    | [] => simp [since?] at running
    | (time, occurrence) :: earlier =>
      cases occurrence <;> simp at running
      exact ⟨earlier, by rw [running.2], running.1⟩
  · rintro ⟨earlier, rfl, undeclared⟩
    simp [undeclared]

theorem declared_of_since (running : h.since? = some start) : h.declared = false := by
  obtain ⟨earlier, rfl, undeclared⟩ := since_eq_some_iff.mp running
  simpa using undeclared

theorem since_of_declared (declared : h.declared = true) : h.since? = none := by
  cases running : h.since? with
  | none => rfl
  | some start => simp [declared_of_since running] at declared

/-- Delays of this length are kept: only a delay that runs can be over, and that is at its end, and
nothing occurs after the end of a delay that runs. -/
def Kept (delay : Duration) : Chronicle → Prop
  | [] => True
  | (time, occurrence) :: earlier =>
    (occurrence = .expiry → (since? earlier).map (· + delay) = some time) ∧
    (∀ start, since? earlier = some start → time ≤ start + delay) ∧ Kept delay earlier

variable {delay : Duration} {occurrence : Occurrence} {later earlier : Chronicle}

theorem Kept.of_append (kept : (later ++ earlier).Kept delay) : earlier.Kept delay := by
  induction later with
  | nil => exact kept
  | cons _ _ ih => exact ih kept.2.2

/-- A delay that is over began its length before, with a departure that was not declared, and nothing
occurred meanwhile. -/
theorem Kept.began (kept : (later ++ (time, .expiry) :: earlier).Kept delay) :
    ∃ start before, earlier = (start, .background) :: before ∧ declared before = false ∧
      start + delay = time := by
  obtain ⟨due, _⟩ := kept.of_append
  obtain ⟨start, running, ends⟩ := Option.map_eq_some_iff.mp (due rfl)
  obtain ⟨before, rfl, undeclared⟩ := since_eq_some_iff.mp running
  exact ⟨start, before, rfl, undeclared, ends⟩

/-- After a departure that is not declared nothing occurs, or the next occurrence is not after the
end of the delay, and if it is that the delay is over it is at its end. -/
theorem Kept.ends (kept : (later ++ (start, .background) :: earlier).Kept delay)
    (undeclared : declared earlier = false) : later = [] ∨ ∃ rest time occurrence,
      later = rest ++ [(time, occurrence)] ∧ time ≤ start + delay ∧
      (occurrence = .expiry → time = start + delay) := by
  have running : since? ((start, .background) :: earlier) = some start := by simp [undeclared]
  rcases List.eq_nil_or_concat later with none | ⟨rest, ⟨time, occurrence⟩, rfl⟩
  · exact .inl none
  · rw [List.concat_eq_append, List.append_assoc, List.singleton_append] at kept
    obtain ⟨due, soon, _⟩ := kept.of_append
    rw [running] at due
    exact .inr ⟨rest, time, occurrence, List.concat_eq_append, soon start running,
      fun expiry => (Option.some.inj (due expiry)).symm⟩

/-- Of declarations in turn, the last one is a departure if their number is odd. -/
theorem isLastBackground_of_alternation {events : List (Duration × LifecycleEvent)}
    (alternate : events.map (·.2) = LifecycleEvent.alternation events.length) :
    LifecycleEvent.isLastBackground events = decide (events.length % 2 = 1) := by
  cases events with
  | nil => rfl
  | cons event rest =>
    obtain ⟨last, _⟩ := List.cons.inj alternate
    simp only [LifecycleEvent.isLastBackground, List.head?_cons, Option.any_some, last,
      List.length_cons]
    by_cases even : rest.length % 2 = 0
    · simp [even, Nat.add_mod]
    · simp [even]
      omega

/-- The declarations alternate, and the first one is a departure. -/
theorem Kept.alternate (kept : h.Kept delay) :
    h.declarations.map (·.2) = LifecycleEvent.alternation h.declarations.length := by
  induction h with
  | nil => rfl
  | cons last earlier ih =>
    obtain ⟨time, occurrence⟩ := last
    obtain ⟨due, _, before⟩ := kept
    have alternate := ih before
    have turn : declared earlier = decide ((declarations earlier).length % 2 = 1) :=
      isLastBackground_of_alternation alternate
    cases occurrence with
    | background => simpa using alternate
    | ignoreNext => simpa using alternate
    | shutdown => simpa using alternate
    | foreground =>
      rw [declarations_foreground]
      split
      case isTrue declared =>
        have odd : (declarations earlier).length % 2 = 1 := by simpa [turn] using declared
        simp [LifecycleEvent.alternation, alternate, odd]
      case isFalse => exact alternate
    | expiry =>
      rw [declarations_expiry]
      split
      case isTrue => exact alternate
      case isFalse =>
        obtain ⟨start, running, _⟩ := Option.map_eq_some_iff.mp (due rfl)
        have undeclared := declared_of_since running
        have even : (declarations earlier).length % 2 = 0 := by
          rw [turn, decide_eq_false_iff_not] at undeclared
          omega
        simp [LifecycleEvent.alternation, alternate, even]

end Chronicle

namespace Signal

/-- What a call to the signal counts as. A timer that was stopped or replaced counts as nothing. -/
def occurrence? (s : Signal) : SignalCall → Option Occurrence
  | .background => some .background
  | .foreground => some .foreground
  | .ignoreNext => some .ignoreNext
  | .shutdown => some .shutdown
  | .expire generation => if generation = s.generation then some .expiry else none
  | .backgroundAtOnce => none

/-- What a call adds to the chronicle. -/
def occurs (s : Signal) (now : Duration) (call : SignalCall) : Chronicle :=
  ((s.occurrence? call).map (now, ·)).toList

/-- Whether a call may be made where a clock runs: the timer of the delay that runs goes off when it
is due. Timers that were stopped or replaced may go off at any time. -/
def timely (s : Signal) (now : Duration) : SignalCall → Bool
  | .expire generation => generation ≠ s.generation || s.pending.any (·.due = now)
  | .backgroundAtOnce => false
  | _ => true

/-- The signal is in the state that the chronicle says. -/
structure Follows (s : Signal) (h : Chronicle) : Prop where
  background : s.background = h.declared
  pending : s.pending = h.since?.map fun start => ⟨start + s.debounce, s.generation⟩
  ignoreNext : s.ignoreNext = h.ignoring

/-- From one signal to another the chronicle went on, and this was declared. -/
structure Continues (s : Signal) (h : Chronicle) (o : Outcome) (now : Duration) (h' : Chronicle) :
    Prop where
  follows : o.signal.Follows h'
  debounce : o.signal.debounce = s.debounce
  declared : h'.declarations = (o.declared.map (now, ·)).toList ++ h.declarations

variable {s : Signal} {h : Chronicle} {now : Duration}

theorem Follows.new (debounce : Duration) : ({ debounce } : Signal).Follows [] := ⟨rfl, rfl, rfl⟩

theorem Follows.rawBackground (follows : s.Follows h) :
    s.Continues h (s.rawBackground now) now ((now, .background) :: h) := by
  obtain ⟨background, pending, ignoreNext⟩ := follows
  unfold Signal.rawBackground
  split
  case isTrue away =>
    have declared : h.declared = true := background.symm.trans away
    rw [Chronicle.since_of_declared declared] at pending
    exact ⟨⟨by simpa, by simpa [declared], by simpa⟩, rfl, by simp⟩
  case isFalse here =>
    have undeclared : h.declared = false := background.symm.trans (by simpa using here)
    exact ⟨⟨by simpa, by simp [undeclared], by simpa⟩, rfl, by simp⟩

theorem Follows.rawForeground (follows : s.Follows h) :
    s.Continues h s.rawForeground now ((now, .foreground) :: h) := by
  obtain ⟨background, _, ignoreNext⟩ := follows
  unfold Signal.rawForeground
  dsimp only
  split
  case isTrue away =>
    have declared : h.declared = true := background.symm.trans away
    exact ⟨⟨by simp, by simp, by simpa⟩, rfl, by simp [declared]⟩
  case isFalse here =>
    have undeclared : h.declared = false := background.symm.trans (by simpa using here)
    exact ⟨⟨by simpa using here, by simp, by simpa⟩, rfl, by simp [undeclared]⟩

theorem Follows.ignoreNextBackground (follows : s.Follows h) :
    s.Continues h s.ignoreNextBackground now ((now, .ignoreNext) :: h) := by
  obtain ⟨background, pending, ignoreNext⟩ := follows
  unfold Signal.ignoreNextBackground
  split
  case h_1 waiting waits =>
    obtain ⟨start, running, _⟩ := Option.map_eq_some_iff.mp (pending.symm.trans waits)
    exact ⟨⟨by simpa, by simp, by simpa [running]⟩, rfl, by simp⟩
  case h_2 free =>
    have still : h.since? = none := Option.map_eq_none_iff.mp (pending.symm.trans free)
    exact ⟨⟨by simpa, by simpa using free, by simp [still]⟩, rfl, by simp⟩

theorem Follows.shutdown (follows : s.Follows h) :
    s.Continues h s.shutdown now ((now, .shutdown) :: h) := by
  obtain ⟨background, _, ignoreNext⟩ := follows
  unfold Signal.shutdown
  exact ⟨⟨by simpa, by simp, by simpa⟩, rfl, by simp⟩

theorem Follows.expire (follows : s.Follows h) {start : Duration}
    (running : h.since? = some start) :
    s.Continues h (s.expire s.generation) now ((now, .expiry) :: h) := by
  obtain ⟨background, _, ignoreNext⟩ := follows
  have undeclared := Chronicle.declared_of_since running
  unfold Signal.expire
  simp only [ne_eq, not_true_eq_false, if_false]
  split
  case isTrue ignored =>
    have ignoring : h.ignoring = true := ignoreNext.symm.trans ignored
    exact ⟨⟨by simpa [ignoring], by simp, by simp⟩, rfl, by simp [ignoring]⟩
  case isFalse heeded =>
    have ignoring : h.ignoring = false := ignoreNext.symm.trans (by simpa using heeded)
    rw [if_neg (by simp [background, undeclared])]
    exact ⟨⟨by simp [ignoring], by simp, by simpa using heeded⟩, rfl, by simp [ignoring]⟩

/-- Whatever is asked of the signal in time, it goes on as the chronicle says. -/
theorem Follows.outcome (follows : s.Follows h) {call : SignalCall} (timely : s.timely now call) :
    s.Continues h (s.outcome now call) now (s.occurs now call ++ h) := by
  cases call with
  | background => exact follows.rawBackground
  | backgroundAtOnce => contradiction
  | foreground => exact follows.rawForeground
  | ignoreNext => exact follows.ignoreNextBackground
  | shutdown => exact follows.shutdown
  | expire generation =>
    by_cases current : generation = s.generation
    case pos =>
      subst current
      have waits : s.pending.any (·.due = now) := by simpa [Signal.timely] using timely
      obtain ⟨pending, there, _⟩ := (Option.any_eq_true _ _).mp waits
      obtain ⟨start, running, _⟩ := Option.map_eq_some_iff.mp (follows.pending.symm.trans there)
      have occurs : s.occurs now (.expire s.generation) = [(now, .expiry)] := by
        simp [Signal.occurs, occurrence?]
      rw [occurs]
      exact follows.expire running
    case neg =>
      have occurs : s.occurs now (.expire generation) = [] := by
        simp [Signal.occurs, occurrence?, current]
      have void : s.outcome now (.expire generation) = { signal := s } :=
        if_pos fun same => current same.symm
      rw [occurs, void]
      exact ⟨follows, rfl, rfl⟩

theorem Follows.due (follows : s.Follows h) {call : SignalCall} (timely : s.timely now call)
    (expiry : s.occurrence? call = some .expiry) : h.since?.map (· + s.debounce) = some now := by
  cases call with
  | expire generation =>
    by_cases current : generation = s.generation
    case pos =>
      subst current
      have waits : s.pending.any (·.due = now) := by simpa [Signal.timely] using timely
      rw [follows.pending] at waits
      cases running : h.since? with
      | none => simp [running] at waits
      | some start => simpa [running] using waits
    case neg => simp [occurrence?, current] at expiry
  | _ => simp [occurrence?] at expiry

theorem Follows.kept (follows : s.Follows h) {call : SignalCall} (timely : s.timely now call)
    (kept : h.Kept s.debounce)
    (awaited : ∀ start, h.since? = some start → now ≤ start + s.debounce) :
    (s.occurs now call ++ h).Kept s.debounce := by
  unfold occurs
  cases occurred : s.occurrence? call with
  | none => exact kept
  | some occurrence =>
    exact ⟨fun expiry => follows.due timely (expiry ▸ occurred), awaited, kept⟩

/-- A delay that runs after a call ran before it, or begins now. -/
theorem occurs_awaited {call : SignalCall}
    (awaited : ∀ start, h.since? = some start → now ≤ start + s.debounce) {start : Duration}
    (running : Chronicle.since? (s.occurs now call ++ h) = some start) :
    now ≤ start + s.debounce := by
  unfold occurs at running
  cases occurred : s.occurrence? call with
  | none =>
    rw [occurred] at running
    exact awaited start running
  | some occurrence =>
    rw [occurred] at running
    obtain ⟨earlier, began, _⟩ := Chronicle.since_eq_some_iff.mp running
    obtain ⟨⟨rfl, _⟩, _⟩ := List.cons.inj began
    exact Nat.le_add_right _ _

end Signal
end MediaPlayback
