import MediaPlayback.Proofs.Moves

/-! The clock of position reports, along a run. Nothing but its own beats moves it on, and it stops
only for good. So the beats of a run fall due at the multiples of its period, counted from the
launch of the engine, one after the other and none left out. -/

namespace MediaPlayback

def Duration.times (d : Duration) (n : Nat) : Duration := ⟨n * d.nanos⟩

theorem Duration.times_succ (d : Duration) (n : Nat) : d.times (n + 1) = d.times n + d :=
  congrArg Duration.mk (Nat.succ_mul n d.nanos)

theorem Duration.add_assoc (a b c : Duration) : a + b + c = a + (b + c) :=
  congrArg Duration.mk (Nat.add_assoc ..)

theorem Duration.zero_add (d : Duration) : zero + d = d := congrArg Duration.mk (Nat.zero_add _)

namespace Core

variable {σ L : Type} {c c' : Core σ L}

/-- The clock goes on as it did, or it has stopped. -/
def SparesClock (c c' : Core σ L) : Prop := c'.ticker = c.ticker ∨ c'.ticker = none

/-- A clock with this period, if it goes, was set at `start` and has beaten so many times since. -/
def Paced (c : Core σ L) (start period : Duration) (beaten : Nat) : Prop :=
  ∀ ticker, c.ticker = some ticker → ticker = ⟨start + period.times (beaten + 1), period⟩

theorem Paced.spares {start period : Duration} {beaten : Nat} (paced : c.Paced start period beaten)
    (spares : c.SparesClock c') : c'.Paced start period beaten := by
  intro ticker goes
  rcases spares with same | stopped
  · exact paced ticker (same ▸ goes)
  · rw [stopped] at goes
    contradiction

@[simp] theorem post_ticker (m : Message) : (c.post m).ticker = c.ticker := by
  unfold post
  split <;> rfl

@[simp] theorem collect_ticker : c.collect.ticker = c.ticker := by
  rw [collect_eq]

theorem beginFlight_ticker [Surroundings σ L] : c.beginFlight.ticker = c.ticker := by
  unfold beginFlight
  split
  · rfl
  · split <;> rfl

variable [Surroundings σ L]

@[simp] theorem postWeakly_ticker (m : Message) : (c.postWeakly m).ticker = c.ticker := by
  unfold postWeakly
  split
  · exact post_ticker m
  · rfl

theorem finish_ticker (c : Core σ L) : c.finish.ticker = none := by
  unfold finish
  rw [collect_ticker]

theorem takeMessage_spares (c : Core σ L) : c.SparesClock c.takeMessage := by
  unfold takeMessage
  split
  · exact .inl rfl
  · exact .inr (finish_ticker _)
  · exact .inl collect_ticker

theorem endUnlessHeld_spares (c : Core σ L) : c.SparesClock c.endUnlessHeld := by
  unfold endUnlessHeld
  split
  · exact .inl rfl
  · exact .inr c.finish_ticker

theorem land_ticker (request : Nat) (result : Except HostError PreparedSession) :
    (c.land request result).ticker = c.ticker := by
  unfold land
  split
  · rfl
  · dsimp only
    split
    · exact post_ticker _
    · split <;> rfl

theorem recordFollower_ticker (event : LifecycleEvent) (told : Told (Follower L) Command) :
    (recordFollower event c told).ticker = c.ticker := by
  unfold recordFollower
  split
  · exact postWeakly_ticker _
  · exact collect_ticker

theorem declare_ticker (event : LifecycleEvent) : (c.declare event).ticker = c.ticker := by
  have fold : ∀ (told : List (Told (Follower L) Command)) (c : Core σ L),
      (told.foldl (recordFollower event) c).ticker = c.ticker := by
    intro told
    induction told with
    | nil => exact fun _ => rfl
    | cons first rest ih => exact fun c => (ih _).trans (recordFollower_ticker event first)
  unfold declare
  dsimp only
  split <;> exact fold _ _

theorem absorb_ticker (outcome : Signal.Outcome) : (c.absorb outcome).ticker = c.ticker := by
  unfold absorb
  dsimp only
  split
  · rfl
  · exact declare_ticker _

theorem attach_ticker : c.attach.2.ticker = c.ticker := by
  have read : c.readAppState.ticker = c.ticker := by
    unfold readAppState
    split
    · dsimp only
      split
      · rfl
      · exact absorb_ticker _
    · rfl
  have subscribed : c.readAppState.subscribeAppState.2.ticker = c.readAppState.ticker := by
    unfold subscribeAppState
    split <;> rfl
  exact subscribed.trans read

theorem resolveItem_ticker (transferId : String) :
    (c.resolveItem transferId).2.ticker = c.ticker := by
  unfold resolveItem
  split <;> rfl

/-- The engine's clock is set when it is launched, and the first beat is due a period later. -/
theorem launch_ticker (c : Core σ L) {period : Duration} (positive : 0 < period.nanos) :
    (c.launch period).ticker = some ⟨c.now + period, period⟩ := by
  have inhabited : period.isZero = false := beq_eq_false_iff_ne.mpr (Nat.ne_of_gt positive)
  unfold launch
  simp [inhabited]

theorem launch_paced (c : Core σ L) (period : Duration) :
    (c.launch period).Paced c.now period 0 := by
  intro ticker goes
  have once : period.times 1 = period := congrArg Duration.mk (Nat.one_mul _)
  rw [Nat.zero_add, once]
  by_cases positive : 0 < period.nanos
  · rw [launch_ticker c positive] at goes
    exact (Option.some.inj goes).symm
  · have nothing : period.isZero = true := beq_iff_eq.mpr (Nat.eq_zero_of_not_pos positive)
    simp [launch, nothing] at goes

/-- When the beat of an action was due, if the clock beats in it. -/
def beatsIn (c : Core σ L) : Action σ L → List Duration
  | .beat => if c.isHeld then (c.ticker.map (·.next)).toList else []
  | _ => []

/-- When the beats of a run were due, in order. -/
def beats (c : Core σ L) (actions : List (Action σ L)) : List Duration := along beatsIn c actions

/-- What is no beat spares the clock. -/
theorem act_spares (c : Core σ L) {action : Action σ L} (silent : c.beatsIn action = []) :
    c.SparesClock (c.act action) := by
  cases action with
  | command | output | focus => exact .inl (postWeakly_ticker _)
  | take =>
    rw [act]
    split
    · exact c.takeMessage_spares
    · exact .inl rfl
  | close =>
    rw [act]
    split
    · exact c.endUnlessHeld_spares
    · exact .inl rfl
  | ask => exact .inl beginFlight_ticker
  | answer request result =>
    rw [act]
    split
    · exact .inl (land_ticker request result)
    · exact .inl rfl
  | beat =>
    rw [act, beat]
    split
    case h_1 stopped => exact .inl rfl
    case h_2 ticker goes =>
      split
      case isTrue held => simp [beatsIn, held, goes] at silent
      -- Where nobody holds the engine any more, the clock stops in place of a beat.
      case isFalse => exact .inr rfl
  | signal call => exact .inl (absorb_ticker _)
  | attach => exact .inl attach_ticker
  | resolve transferId => exact .inl (resolveItem_ticker transferId)
  | log | change => exact .inl rfl

variable {start period : Duration} {beaten : Nat}

/-- A beat comes when it is due, and the next one is due a period later. -/
theorem Paced.act (paced : c.Paced start period beaten) (action : Action σ L) :
    c.beatsIn action = [] ∧ (c.act action).Paced start period beaten ∨
    c.beatsIn action = [start + period.times (beaten + 1)] ∧
      (c.act action).Paced start period (beaten + 1) := by
  by_cases silent : c.beatsIn action = []
  · exact .inl ⟨silent, paced.spares (c.act_spares silent)⟩
  · refine .inr ?_
    cases action with
    | beat =>
      cases goes : c.ticker with
      | none => simp [beatsIn, goes] at silent
      | some ticker =>
        cases held : c.isHeld with
        | false => simp [beatsIn, held] at silent
        | true =>
          obtain rfl := paced ticker goes
          refine ⟨by simp [beatsIn, held, goes], ?_⟩
          intro ticker' goes'
          rw [Core.act, beat, goes] at goes'
          simp only [held, if_true, post_ticker, Option.some.injEq] at goes'
          rw [← goes', period.times_succ (beaten + 1), ← Duration.add_assoc]
    | _ => exact absurd rfl silent

/-- The beats of a run fall due one after the other, a period apart. -/
theorem Paced.beats (paced : c.Paced start period beaten) (actions : List (Action σ L)) :
    c.beats actions = (List.range' (beaten + 1) (c.beats actions).length).map
      fun n => start + period.times n := by
  -- The number of beats that are over goes along: it says which multiple is due next.
  induction actions generalizing c beaten with
  | nil => rfl
  | cons action rest ih =>
    have went : c.beats (action :: rest) = c.beatsIn action ++ (c.act action).beats rest := rfl
    rw [went]
    rcases paced.act action with ⟨silent, paced'⟩ | ⟨beat, paced'⟩
    · rw [silent, List.nil_append]
      exact ih paced'
    · rw [beat, List.singleton_append, List.length_cons, List.range'_succ, List.map_cons]
      exact congrArg _ (ih paced')

end Core
end MediaPlayback
