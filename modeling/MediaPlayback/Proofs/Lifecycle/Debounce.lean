import MediaPlayback.Proofs.LatestStart
import MediaPlayback.Proofs.Lifecycle.Chronicle

/-! The lifecycle signal of a core over any stretch of time in which its timers go off when they are
due: what the signal declares is what the chronicle of the calls declares, and each declaration is
told once to every follower and announced once. -/

namespace MediaPlayback

/-- The declaration that a message brings. -/
def Message.lifecycle? : Message → Option LifecycleEvent
  | .lifecycle event => some event
  | _ => none

theorem Message.lifecycle?_of_isCommand {m : Message} (command : m.isCommand) :
    m.lifecycle? = none := by
  cases m with
  | lifecycle => contradiction
  | _ => rfl

namespace Core

variable {σ L : Type}

/-- What subscribers, listeners and users got to hear, the last of it first. -/
def heard (c : Core σ L) : List (Effect L) := c.world.trace.filter (·.isHeard)

/-- The declarations that wait in the engine's mailbox. -/
def noted (c : Core σ L) : List LifecycleEvent := c.mailbox.filterMap Message.lifecycle?

/-- What a follower hears of a declaration. The engine hears of it by message instead. -/
def notice? (event : LifecycleEvent) (follower : ListenerId × Follower L) : Option (Effect L) :=
  match follower.2 with
  | .engine => none
  | .listener listener => some (.notified follower.1 listener event.notice)

/-- The message that the engine gets of a declaration if it can be reached. -/
def note? (event : LifecycleEvent) (reached : Bool) (follower : ListenerId × Follower L) :
    Option LifecycleEvent :=
  match follower.2 with
  | .engine => if reached then some event else none
  | .listener _ => none

/-- What is heard of a declaration: every follower is told in order, and then it is announced. -/
def announcement (c : Core σ L) (event : LifecycleEvent) : List (Effect L) :=
  c.followers.entries.filterMap (notice? event) ++
    if c.publishes then [.emitted (.lifecycle event)] else []

variable [Surroundings σ L]

/-- What an action adds to the chronicle of the signal. -/
def occurs (c : Core σ L) : Action σ L → Chronicle
  | .signal call => c.signal.occurs c.now call
  | _ => []

/-- What the signal declares in an action, and when. -/
def declares (c : Core σ L) : Action σ L → List (Duration × LifecycleEvent)
  | .signal call => ((c.signal.outcome c.now call).declared.map (c.now, ·)).toList
  | _ => []

/-- What is heard of the declarations of an action. -/
def announces (c : Core σ L) (action : Action σ L) : List (Effect L) :=
  (c.declares action).flatMap fun declaration => c.announcement declaration.2

/-- The messages that the engine gets of the declarations of an action. -/
def notifies (c : Core σ L) (action : Action σ L) : List LifecycleEvent :=
  (c.declares action).flatMap fun declaration =>
    c.followers.entries.filterMap (note? declaration.2 (c.act action).listens)

/-- Whether an action only lets time pass or calls the signal, and no timer goes off too early or
too late. -/
def isTimely (c : Core σ L) : Action σ L → Bool
  | .change circumstances => c.signal.pending.all (circumstances.now ≤ ·.due)
  | .signal call => c.signal.timely c.now call
  | _ => false

/-- Whether all actions of a run are timely. -/
def onTime : Core σ L → List (Action σ L) → Bool
  | _, [] => true
  | c, action :: rest => c.isTimely action && (c.act action).onTime rest

/-- From one core to another, this was heard and noted, and the signal's own affairs stayed as they
were. -/
structure Tells (c : Core σ L) (effects : List (Effect L)) (events : List LifecycleEvent)
    (c' : Core σ L) : Prop where
  signal : c'.signal = c.signal
  now : c'.now = c.now
  publishes : c'.publishes = c.publishes
  heard : c'.heard = effects.reverse ++ c.heard
  noted : c'.noted = c.noted ++ events

variable {c c' c'' : Core σ L} {first second : List (Effect L)} {early late : List LifecycleEvent}

omit [Surroundings σ L] in
theorem Tells.refl (c : Core σ L) : c.Tells [] [] c := ⟨rfl, rfl, rfl, rfl, by simp⟩

omit [Surroundings σ L] in
theorem Tells.trans (before : c.Tells first early c') (after : c'.Tells second late c'') :
    c.Tells (first ++ second) (early ++ late) c'' := by
  refine ⟨after.signal.trans before.signal, after.now.trans before.now,
    after.publishes.trans before.publishes, ?_, ?_⟩
  · rw [after.heard, before.heard, List.reverse_append, List.append_assoc]
  · rw [after.noted, before.noted, List.append_assoc]

omit [Surroundings σ L] in
theorem collect_tells (c : Core σ L) : c.Tells [] [] c.collect := by
  rw [collect_eq]
  refine ⟨rfl, rfl, rfl, rfl, ?_⟩
  unfold noted
  dsimp only
  rw [List.filterMap_append, List.append_nil]
  split
  -- What followers post are commands, and none of these is a declaration.
  case isTrue => simpa using fun m command _ => Message.lifecycle?_of_isCommand command
  case isFalse => exact List.append_nil _

variable (event : LifecycleEvent)

omit [Surroundings σ L] in
theorem recordTold_tells (c : Core σ L) (id : ListenerId) (listener : L) (posts : List Command)
    (breakdown : Option Breakdown) :
    c.Tells [.notified id listener event.notice] []
      { c with world := World.recordTold event.notice c.world ⟨id, listener, posts, breakdown⟩ } := by
  unfold World.recordTold
  cases breakdown <;> exact ⟨rfl, rfl, rfl, rfl, (List.append_nil _).symm⟩

theorem recordFollower_listens (c : Core σ L) (told : Told (Follower L) Command) :
    (recordFollower event c told).listens = c.listens := by
  unfold recordFollower
  cases told.listener with
  | engine =>
    dsimp only [postWeakly, post]
    split
    · split <;> rfl
    · rfl
  | listener listener =>
    dsimp only
    rw [collect_eq]
    unfold World.recordTold
    cases told.breakdown <;> rfl

theorem recordFollower_tells (c : Core σ L) (told : Told (Follower L) Command) :
    c.Tells (notice? event (told.id, told.listener)).toList
      (note? event c.listens (told.id, told.listener)).toList (recordFollower event c told) := by
  unfold recordFollower
  cases told.listener with
  | engine =>
    dsimp only [notice?, note?, postWeakly, post]
    by_cases reached : c.listens = true
    · obtain ⟨running, held⟩ := Bool.and_eq_true_iff.mp reached
      rw [if_pos reached, if_pos held, if_pos (of_decide_eq_true running)]
      refine ⟨rfl, rfl, rfl, rfl, ?_⟩
      simp [noted, Message.lifecycle?]
    · rw [if_neg reached]
      split
      case isTrue held =>
        rw [if_neg fun running => reached (by simp [listens, held, running])]
        exact .refl c
      case isFalse => exact .refl c
  | listener listener =>
    have tells := c.recordTold_tells event told.id listener told.posts told.breakdown
    exact tells.trans (collect_tells _)

theorem foldl_recordFollower_tells (c : Core σ L) (told : List (Told (Follower L) Command)) :
    (told.foldl (recordFollower event) c).listens = c.listens ∧
    c.Tells ((told.map fun told => (told.id, told.listener)).filterMap (notice? event))
      ((told.map fun told => (told.id, told.listener)).filterMap (note? event c.listens))
      (told.foldl (recordFollower event) c) := by
  induction told generalizing c with
  | nil => exact ⟨rfl, .refl c⟩
  | cons first rest ih =>
    have same : (recordFollower event c first).listens = c.listens :=
      c.recordFollower_listens event first
    obtain ⟨listens, others⟩ := ih (recordFollower event c first)
    rw [same] at listens others
    refine ⟨listens, ?_⟩
    rw [List.map_cons, filterMap_cons_toList, filterMap_cons_toList]
    exact (c.recordFollower_tells event first).trans others

/-- Every follower is told of a declaration once, in order, and then it is announced once. -/
theorem declare_tells (c : Core σ L) :
    c.Tells (c.announcement event)
      (c.followers.entries.filterMap (note? event (c.declare event).listens))
      (c.declare event) := by
  unfold declare announcement
  have entries := Registry.tell_listeners (follow (L := L) event) c.followers.entries c.followers
    c.world.outside
  rw [← entries]
  unfold Registry.notify
  generalize Registry.tell (follow event) c.followers.entries c.followers c.world.outside = answer
  obtain ⟨told, followers, outside⟩ := answer
  dsimp only
  obtain ⟨listens, tells⟩ := foldl_recordFollower_tells event
    { c with followers, world := { c.world with outside } } told
  -- The followers may have changed what is outside, and so whether the engine can be reached.
  generalize told.foldl (recordFollower event) { c with
    followers, world := { c.world with outside } } = c' at listens tells ⊢
  have told : c.Tells _ _ c' := ⟨tells.signal, tells.now, tells.publishes, tells.heard, tells.noted⟩
  rw [← listens] at told
  by_cases publishes : c.publishes = true
  case pos =>
    rw [if_pos publishes, if_pos (told.publishes.trans publishes)]
    have emitted : c'.Tells [.emitted (.lifecycle event)] []
        { c' with world := c'.world.record (.emitted (.lifecycle event)) } :=
      ⟨rfl, rfl, rfl, rfl, (List.append_nil _).symm⟩
    have both := told.trans emitted
    rw [List.append_nil (List.filterMap _ _)] at both
    exact both
  case neg =>
    rw [if_neg publishes, if_neg fun still => publishes (told.publishes.symm.trans still),
      List.append_nil]
    exact told

omit [Surroundings σ L] in
theorem logSignal_heard (w : World σ L) (entries : List (LogLevel × String)) :
    (w.logSignal entries).trace.filter (·.isHeard) = w.trace.filter (·.isHeard) := by
  induction entries generalizing w with
  | nil => rfl
  | cons entry rest ih => exact ih (w.log .lifecycle entry.1 entry.2 [])

theorem absorb_tells (c : Core σ L) (outcome : Signal.Outcome) :
    { c with signal := outcome.signal }.Tells (outcome.declared.toList.flatMap c.announcement)
      (outcome.declared.toList.flatMap fun event =>
        c.followers.entries.filterMap (note? event (c.absorb outcome).listens))
      (c.absorb outcome) := by
  have logged : { c with signal := outcome.signal }.Tells [] []
      { c with signal := outcome.signal, world := c.world.logSignal outcome.log } :=
    ⟨rfl, rfl, rfl, logSignal_heard c.world outcome.log, (List.append_nil _).symm⟩
  unfold absorb
  cases outcome.declared with
  | none => exact logged
  | some event =>
    simp only [Option.toList_some, List.flatMap_singleton]
    exact logged.trans (declare_tells event _)

variable {c : Core σ L} {action : Action σ L} {h : Chronicle}

theorem act_tells (timely : c.isTimely action) :
    (c.act action).heard = (c.announces action).reverse ++ c.heard ∧
    (c.act action).noted = c.noted ++ c.notifies action := by
  cases action with
  | change circumstances => exact ⟨rfl, (List.append_nil _).symm⟩
  | signal call =>
    obtain ⟨_, _, _, heard, noted⟩ := c.absorb_tells (c.signal.outcome c.now call)
    unfold announces notifies declares
    dsimp only
    cases declared : (c.signal.outcome c.now call).declared with
    | none =>
      rw [declared] at heard noted
      exact ⟨heard, noted⟩
    | some event =>
      rw [declared] at heard noted
      exact ⟨heard, noted⟩
  | _ => contradiction

/-- The signal is in the state that the chronicle says, delays were as long as the signal's, and a
delay that runs is not over for longer than that. -/
structure Chronicled (c : Core σ L) (h : Chronicle) : Prop where
  follows : c.signal.Follows h
  kept : h.Kept c.signal.debounce
  awaited : ∀ start, h.since? = some start → c.now ≤ start + c.signal.debounce

/-- A timely action is an entry of the chronicle, or none, and what is declared in it is what the
chronicle declares. -/
theorem Chronicled.act (chronicled : c.Chronicled h) (timely : c.isTimely action) :
    (c.act action).Chronicled (c.occurs action ++ h) ∧
    (c.act action).signal.debounce = c.signal.debounce ∧
    (c.occurs action ++ h).declarations = c.declares action ++ h.declarations := by
  obtain ⟨follows, kept, awaited⟩ := chronicled
  cases action with
  | change circumstances =>
    refine ⟨⟨follows, kept, fun start running => ?_⟩, rfl, rfl⟩
    have pending : c.signal.pending = some ⟨start + c.signal.debounce, c.signal.generation⟩ :=
      follows.pending.trans (congrArg (Option.map _) running)
    rw [isTimely, pending, Option.all_some, decide_eq_true_eq] at timely
    exact timely
  | signal call =>
    have tells := c.absorb_tells (c.signal.outcome c.now call)
    have signal : (c.act (.signal call)).signal = (c.signal.outcome c.now call).signal :=
      tells.signal
    have now : (c.act (.signal call)).now = c.now := tells.now
    obtain ⟨follows', debounce, declared⟩ := follows.outcome timely
    refine ⟨⟨signal ▸ follows', ?_, ?_⟩, by rw [signal, debounce], declared⟩
    · rw [signal, debounce]
      exact follows.kept timely kept awaited
    · rw [signal, debounce, now]
      exact fun start running => Signal.occurs_awaited awaited running
  | _ => contradiction

omit [Surroundings σ L] in
theorem occurs_reverse (c : Core σ L) (action : Action σ L) :
    (c.occurs action).reverse = c.occurs action := by
  cases action with
  | signal call => exact reverse_toList _
  | _ => rfl

omit [Surroundings σ L] in
theorem declares_reverse (c : Core σ L) (action : Action σ L) :
    (c.declares action).reverse = c.declares action := by
  cases action with
  | signal call => exact reverse_toList _
  | _ => rfl

/-- The chronicle of a run. -/
def chronicle (c : Core σ L) (actions : List (Action σ L)) : Chronicle :=
  (along occurs c actions).reverse

variable {actions : List (Action σ L)}

theorem Chronicled.after (chronicled : c.Chronicled h) (onTime : c.onTime actions) :
    (c.after actions).Chronicled (c.chronicle actions ++ h) ∧
    (c.after actions).signal.debounce = c.signal.debounce ∧
    (c.chronicle actions ++ h).declarations =
      (along declares c actions).reverse ++ h.declarations := by
  induction actions generalizing c h with
  | nil => exact ⟨chronicled, rfl, rfl⟩
  | cons action rest ih =>
    obtain ⟨timely, later⟩ := Bool.and_eq_true_iff.mp onTime
    obtain ⟨once, debounce, declared⟩ := chronicled.act timely
    obtain ⟨since, debounce', declared'⟩ := ih once later
    -- The first action of the run stands at the end of what the run adds.
    have went : c.chronicle (action :: rest) ++ h =
        (c.act action).chronicle rest ++ (c.occurs action ++ h) := by
      rw [chronicle, along, List.reverse_append, occurs_reverse, List.append_assoc]
      rfl
    rw [went, after_cons]
    refine ⟨since, debounce'.trans debounce, ?_⟩
    rw [declared', declared, along, List.reverse_append, declares_reverse, List.append_assoc]

theorem after_tells (onTime : c.onTime actions) :
    (c.after actions).heard = (along announces c actions).reverse ++ c.heard ∧
    (c.after actions).noted = c.noted ++ along notifies c actions := by
  induction actions generalizing c with
  | nil => exact ⟨rfl, (List.append_nil _).symm⟩
  | cons action rest ih =>
    obtain ⟨timely, later⟩ := Bool.and_eq_true_iff.mp onTime
    obtain ⟨heard, noted⟩ := act_tells timely
    obtain ⟨heard', noted'⟩ := ih later
    rw [after_cons, heard', noted', heard, noted, along, along, List.reverse_append,
      List.append_assoc, List.append_assoc]
    exact ⟨rfl, rfl⟩

/-- The signal is what its timed reference is. A delay is over exactly where nothing occurred since a
departure that was not declared, its length later. What is declared is what the chronicle declares,
in turn and a departure first; every follower is told of it once, and it is announced once. Whether
the app is in the background, a delay runs or a departure is to be ignored is as the chronicle
says. -/
theorem signal_follows_chronicle {debounce : Duration} (new : c.signal = { debounce })
    (onTime : c.onTime actions) :
    (∀ later time earlier, c.chronicle actions = later ++ (time, .expiry) :: earlier →
      ∃ start before, earlier = (start, .background) :: before ∧
        Chronicle.declared before = false ∧ start + debounce = time) ∧
    (∀ later start before, c.chronicle actions = later ++ (start, .background) :: before →
      Chronicle.declared before = false →
      (later = [] ∧ (c.after actions).now ≤ start + debounce) ∨
      ∃ rest time occurrence, later = rest ++ [(time, occurrence)] ∧ time ≤ start + debounce ∧
        (occurrence = .expiry → time = start + debounce)) ∧
    along declares c actions = (c.chronicle actions).declarations.reverse ∧
    (along declares c actions).reverse.map (·.2) =
      LifecycleEvent.alternation (along declares c actions).length ∧
    (c.after actions).heard = (along announces c actions).reverse ++ c.heard ∧
    (c.after actions).noted = c.noted ++ along notifies c actions ∧
    (c.after actions).signal.debounce = debounce ∧
    (c.after actions).signal.Follows (c.chronicle actions) := by
  have length : c.signal.debounce = debounce := by rw [new]
  have start : c.Chronicled [] := ⟨new ▸ .new debounce, trivial, by simp [Chronicle.since?]⟩
  obtain ⟨⟨follows, kept, awaited⟩, still, declared⟩ := start.after onTime
  rw [List.append_nil] at follows kept awaited declared
  rw [still, length] at kept awaited
  have declarations : (along declares c actions).reverse = (c.chronicle actions).declarations := by
    rw [declared, Chronicle.declarations, List.append_nil]
  obtain ⟨heard, noted⟩ := after_tells onTime
  refine ⟨?_, ?_, ?_, ?_, heard, noted, still.trans length, follows⟩
  · intro later time earlier split
    exact (split ▸ kept).began
  · intro later start before split undeclared
    rcases (split ▸ kept).ends undeclared with rfl | next
    · refine .inl ⟨rfl, awaited start ?_⟩
      rw [split, List.nil_append, Chronicle.since_background, undeclared]
      rfl
    · exact .inr next
  · rw [← declarations, List.reverse_reverse]
  · rw [declarations, kept.alternate, ← declarations, List.length_reverse]

/-- A core whose signal waits for five nanoseconds. -/
def patient : Core Obliging Empty :=
  { obliged with signal := { debounce := ⟨5⟩ } }.launch .zero

/-- The clock goes on. -/
def passed (nanos : Nat) : Action Obliging Empty :=
  .change { patient.circumstances with now := ⟨nanos⟩ }

/-- The app leaves twice before it counts as away, and the timer of the first time goes off late. It
comes back, leaves on an errand that is to be ignored, and leaves again. -/
def errand : List (Action Obliging Empty) :=
  [.signal .background, passed 3, .signal .background, .signal (.expire 1), passed 8,
    .signal (.expire 2), .signal .ignoreNext, passed 10, .signal .foreground, .signal .background,
    passed 15, .signal (.expire 4), .signal .background, passed 20, .signal (.expire 5)]

/-- The late timer and the ignored departure are not declared, and the engine hears of the rest. -/
theorem signal_follows_chronicle_errand :
    patient.signal = { debounce := ⟨5⟩ } ∧ patient.onTime errand ∧
    along declares patient errand =
      [(⟨8⟩, .becameBackground), (⟨10⟩, .becameForeground), (⟨20⟩, .becameBackground)] ∧
    (patient.after errand).noted = [.becameBackground, .becameForeground, .becameBackground] := by
  have onTime : patient.onTime errand := by decide +kernel
  obtain ⟨_, _, declares, _, _, noted, _⟩ := signal_follows_chronicle rfl onTime
  refine ⟨rfl, onTime, ?_, ?_⟩
  · rw [declares]
    decide +kernel
  · rw [noted]
    decide +kernel

end Core
end MediaPlayback
