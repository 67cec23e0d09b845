import Mathlib.Data.List.Chain
import MediaPlayback.Proofs.Background
import MediaPlayback.Proofs.Lifecycle.Debounce
import MediaPlayback.Proofs.Listener.Registration

/-! The engine keeps abreast of the lifecycle signal. What is declared gets to the engine through its
mailbox, among all other messages, so the engine may lag behind; but what waits always leads from where
the engine takes the app to be to where it is. -/

namespace MediaPlayback

namespace LifecycleEvent

/-- Whether a declaration is that the app is in the background. -/
def isBackground : LifecycleEvent → Bool
  | .becameBackground => true
  | .becameForeground => false

/-- Declarations of which each changes where the app is, from one place to another. -/
def Lead : Bool → List LifecycleEvent → Bool → Prop
  | here, [], there => here = there
  | here, event :: rest, there => event.isBackground ≠ here ∧ Lead event.isBackground rest there

variable {here there there' : Bool} {event : LifecycleEvent} {events : List LifecycleEvent}

theorem Lead.snoc (lead : Lead here events there) (turns : event.isBackground ≠ there) :
    Lead here (events ++ [event]) event.isBackground := by
  induction events generalizing here with
  | nil =>
    obtain rfl : here = there := lead
    exact ⟨turns, rfl⟩
  | cons first rest ih => exact ⟨lead.1, ih lead.2⟩

/-- Declarations lead to one place. -/
theorem Lead.unique (lead : Lead here events there) (lead' : Lead here events there') :
    there = there' := by
  induction events generalizing here with
  | nil => exact lead.symm.trans lead'
  | cons first rest ih => exact ih lead.2 lead'.2

theorem isBackground_inj {event event' : LifecycleEvent} :
    event.isBackground = event'.isBackground ↔ event = event' := by
  cases event <;> cases event' <;> decide

/-- Declarations lead from one place to another if they alternate, the first of them changes where
the app was and the last of them says where it is; without any it is where it was. -/
theorem lead_iff : Lead here events there ↔
    events.IsChain (· ≠ ·) ∧ (∀ event ∈ events.head?, event.isBackground ≠ here) ∧
    (∀ event ∈ events.getLast?, event.isBackground = there) ∧ (events = [] → here = there) := by
  induction events generalizing here with
  | nil => simp [Lead]
  | cons first rest ih =>
    rw [Lead, ih]
    cases rest with
    | nil => simp
    | cons second rest =>
      simp only [List.isChain_cons_cons, List.head?_cons, List.getLast?_cons_cons, Option.mem_def,
        Option.some.injEq, forall_eq', reduceCtorEq, false_implies, and_true, ne_eq,
        isBackground_inj]
      grind

end LifecycleEvent

namespace Signal

/-- What is declared changes where the app is, and nothing else does. -/
theorem outcome_background (s : Signal) (now : Duration) (call : SignalCall) :
    ((s.outcome now call).declared = none ∧
      (s.outcome now call).signal.background = s.background) ∨
    ∃ event, (s.outcome now call).declared = some event ∧ event.isBackground ≠ s.background ∧
      (s.outcome now call).signal.background = event.isBackground := by
  have expiry : ∀ (s : Signal) (generation : Nat),
      ((s.expire generation).declared = none ∧
        (s.expire generation).signal.background = s.background) ∨
      ∃ event, (s.expire generation).declared = some event ∧ event.isBackground ≠ s.background ∧
        (s.expire generation).signal.background = event.isBackground := by
    intro s generation
    unfold expire
    split
    · exact .inl ⟨rfl, rfl⟩
    · dsimp only
      split
      · exact .inl ⟨rfl, rfl⟩
      · split
        case isTrue away => exact .inl ⟨rfl, rfl⟩
        case isFalse here => exact .inr ⟨_, rfl, fun away => here away.symm, rfl⟩
  cases call with
  | background =>
    refine .inl ?_
    rw [outcome, rawBackground]
    split <;> exact ⟨rfl, rfl⟩
  | backgroundAtOnce =>
    rw [outcome, rawBackgroundAtOnce]
    split
    · exact .inl ⟨rfl, rfl⟩
    · exact expiry _ _
  | foreground =>
    rw [outcome, rawForeground]
    dsimp only
    split
    case isTrue away => exact .inr ⟨_, rfl, by rw [away]; decide, rfl⟩
    case isFalse => exact .inl ⟨rfl, rfl⟩
  | ignoreNext =>
    refine .inl ?_
    rw [outcome, ignoreNextBackground]
    split <;> exact ⟨rfl, rfl⟩
  | shutdown => exact .inl ⟨rfl, rfl⟩
  | expire generation => exact expiry s generation

end Signal

/-- Whether a follower is the engine. -/
def Follower.isEngine {L : Type} : Follower L → Bool
  | .engine => true
  | .listener _ => false

namespace Registry

variable {L P σ : Type}

/-- Among the followers the engine is registered once, with a number. -/
def HasEngine (r : Registry (Follower L)) (id : ListenerId) : Prop :=
  r.entries.filter (·.2.isEngine) = [(id, .engine)]

variable {r : Registry (Follower L)} {id removed : ListenerId}

theorem HasEngine.addOther (has : r.HasEngine id) (listener : L) :
    (r.add (.listener listener)).2.HasEngine id := by
  have added : (r.add (.listener listener)).2.entries =
      r.entries ++ [(⟨r.next⟩, .listener listener)] := rfl
  rw [HasEngine, added, List.filter_append, has]
  rfl

theorem HasEngine.remove (has : r.HasEngine id) (other : removed ≠ id) :
    (r.remove removed).HasEngine id := by
  show (r.entries.filter (·.1 ≠ removed)).filter (·.2.isEngine) = _
  rw [List.filter_comm, has]
  simp [Ne.symm other]

/-- What a listener does with registrations leaves the engine's as it is, if the listener takes back
no registration of the engine's number. -/
theorem HasEngine.edits (has : r.HasEngine id) {edits : List (Edit L)}
    (spares : ∀ removed, .remove removed ∈ edits → removed ≠ id) :
    ((edits.map (Edit.map .listener)).foldl edit r).HasEngine id := by
  induction edits generalizing r with
  | nil => exact has
  | cons first rest ih =>
    refine ih ?_ fun removed mem => spares removed (List.mem_cons_of_mem _ mem)
    cases first with
    | add listener => exact has.addOther listener
    | remove removed => exact has.remove (spares removed List.mem_cons_self)

/-- A round of telling leaves the engine's registration as it is. -/
theorem HasEngine.tell {react : Registry (Follower L) → ListenerId → Follower L → σ →
      Reaction (Follower L) P × σ} {entries : List (ListenerId × Follower L)} {outside : σ}
    (has : r.HasEngine id)
    (spares : ∀ entry ∈ entries, ∀ (r : Registry (Follower L)) (outside : σ), r.HasEngine id →
      ((react r entry.1 entry.2 outside).1.edits.foldl edit r).HasEngine id) :
    (Registry.tell react entries r outside).2.1.HasEngine id := by
  induction entries generalizing r outside with
  | nil => exact has
  | cons entry rest ih =>
    obtain ⟨own, follower⟩ := entry
    exact ih (spares _ List.mem_cons_self r outside has)
      fun entry mem => spares entry (List.mem_cons_of_mem _ mem)

end Registry

namespace Core

variable {σ L : Type}

/-- The engine is registered once among the followers of the signal. -/
def Registered (c : Core σ L) : Prop :=
  ∃ id, c.engineFollower = some id ∧ c.followers.HasEngine id

/-- What waits in the engine's mailbox makes up for all that the engine does not know yet: the
declarations alternate, the first of them is news to the engine, and the last of them is where the app
is. -/
structure InStep (c : Core σ L) : Prop where
  alternate : c.noted.IsChain (· ≠ ·)
  first : ∀ event ∈ c.noted.head?, event.isBackground ≠ c.world.engine.backgrounded
  last : ∀ event ∈ c.noted.getLast?, event.isBackground = c.signal.background
  agreed : c.noted = [] → c.world.engine.backgrounded = c.signal.background

variable {c c' : Core σ L}

theorem inStep_iff : c.InStep ↔
    LifecycleEvent.Lead c.world.engine.backgrounded c.noted c.signal.background :=
  ⟨fun ⟨alternate, first, last, agreed⟩ =>
      LifecycleEvent.lead_iff.mpr ⟨alternate, first, last, agreed⟩,
    fun lead =>
      have ⟨alternate, first, last, agreed⟩ := LifecycleEvent.lead_iff.mp lead
      ⟨alternate, first, last, agreed⟩⟩

/-- From one core to another, nothing happened that has to do with the signal. -/
structure Overlooks (c c' : Core σ L) : Prop where
  background : c'.signal.background = c.signal.background
  noted : c'.noted = c.noted
  followers : c'.followers = c.followers
  registration : c'.engineFollower = c.engineFollower

theorem Overlooks.refl (c : Core σ L) : c.Overlooks c := ⟨rfl, rfl, rfl, rfl⟩

theorem Overlooks.trans {c'' : Core σ L} (first : c.Overlooks c') (second : c'.Overlooks c'') :
    c.Overlooks c'' :=
  ⟨second.background.trans first.background, second.noted.trans first.noted,
    second.followers.trans first.followers, second.registration.trans first.registration⟩

theorem Overlooks.registered (overlooks : c.Overlooks c') (registered : c.Registered) :
    c'.Registered := by
  unfold Registered
  rw [overlooks.registration, overlooks.followers]
  exact registered

theorem post_overlooks (c : Core σ L) {m : Message} (other : m.lifecycle? = none) :
    c.Overlooks (c.post m) := by
  unfold post
  split
  · refine ⟨rfl, ?_, rfl, rfl⟩
    show (c.mailbox ++ [m]).filterMap Message.lifecycle? = _
    rw [List.filterMap_append]
    simp [other, noted]
  · exact .refl c

theorem collect_overlooks (c : Core σ L) : c.Overlooks c.collect := by
  have noted : c.collect.noted = c.noted := c.collect_tells.noted.trans (List.append_nil _)
  refine ⟨?_, noted, ?_, ?_⟩ <;> rw [collect_eq]

theorem beginFlight_overlooks (c : Core σ L) : c.Overlooks c.beginFlight := by
  unfold beginFlight
  split
  · exact .refl c
  · split <;> exact ⟨rfl, rfl, rfl, rfl⟩

variable [Surroundings σ L]

theorem postWeakly_overlooks (c : Core σ L) {m : Message} (other : m.lifecycle? = none) :
    c.Overlooks (c.postWeakly m) := by
  unfold postWeakly
  split
  · exact c.post_overlooks other
  · exact .refl c

theorem land_overlooks (c : Core σ L) (request : Nat) (result : Except HostError PreparedSession) :
    c.Overlooks (c.land request result) := by
  unfold land
  split
  · exact .refl c
  · dsimp only
    split
    · refine Overlooks.trans ?_ (post_overlooks _ rfl)
      exact ⟨rfl, rfl, rfl, rfl⟩
    · cases result <;> exact ⟨rfl, rfl, rfl, rfl⟩

theorem beat_overlooks (c : Core σ L) : c.Overlooks c.beat := by
  unfold beat
  split
  · exact .refl c
  · split
    · refine Overlooks.trans ?_ (post_overlooks _ rfl)
      exact ⟨rfl, rfl, rfl, rfl⟩
    · exact ⟨rfl, rfl, rfl, rfl⟩

/-- What the signal is asked without declaring anything. -/
theorem absorb_overlooks (c : Core σ L) {outcome : Signal.Outcome} (quiet : outcome.declared = none)
    (same : outcome.signal.background = c.signal.background) : c.Overlooks (c.absorb outcome) := by
  unfold absorb
  rw [quiet]
  exact ⟨same, rfl, rfl, rfl⟩

theorem attach_overlooks (c : Core σ L) : c.Overlooks c.attach.2 := by
  have left : ∀ c : Core σ L, c.Overlooks c.rawBackground := by
    intro c
    refine c.absorb_overlooks ?_ ?_ <;> rw [Signal.rawBackground] <;> split <;> rfl
  have read : c.Overlooks c.readAppState := by
    unfold readAppState
    obtain ⟨result, outside, h⟩ := c.world.exists_call .appState
    rw [h]
    cases result with
    | error => exact ⟨rfl, rfl, rfl, rfl⟩
    | ok state =>
      dsimp only
      split
      · exact ⟨rfl, rfl, rfl, rfl⟩
      · refine Overlooks.trans ?_ (left _)
        exact ⟨rfl, rfl, rfl, rfl⟩
  have subscribed : c.readAppState.Overlooks c.readAppState.subscribeAppState.2 := by
    unfold subscribeAppState
    split <;> exact ⟨rfl, rfl, rfl, rfl⟩
  exact read.trans subscribed

theorem resolveItem_overlooks (c : Core σ L) (transferId : String) :
    c.Overlooks (c.resolveItem transferId).2 := by
  unfold resolveItem
  split <;> exact ⟨rfl, rfl, rfl, rfl⟩

/-- What a turn makes of where the engine takes the app to be is what the message says, if it says
anything. -/
theorem turn_backgrounded (w : World σ L) (m : Message) : (w.turn m).engine.backgrounded =
    m.lifecycle?.elim w.engine.backgrounded (·.isBackground) := by
  obtain ⟨e', shown, handles, turned⟩ := w.turn_engine m
  rw [turned]
  show e'.backgrounded = _
  by_cases declared : ∃ event, m = .lifecycle event
  · obtain ⟨_ | _, rfl⟩ := declared <;> cases handles <;> rfl
  · rw [(handles.retains fun event same => declared ⟨event, same⟩).backgrounded]
    cases m with
    | lifecycle event => exact absurd ⟨event, rfl⟩ declared
    | _ => rfl

/-- A message that the engine takes is one less that waits. -/
theorem InStep.take {m : Message} (inStep : c.InStep) (next : c.next? = some m)
    (other : m ≠ .shutdown) : (c.act .take).InStep := by
  obtain ⟨_, rest, mailbox⟩ := mailbox_of_next next
  rw [inStep_iff, noted, mailbox, filterMap_cons_toList] at inStep
  have overlooks := collect_overlooks { c with mailbox := rest, world := c.world.turn m }
  have engine : ∀ c : Core σ L, c.collect.world.engine = c.world.engine := by
    intro c
    rw [collect_eq]
  rw [act_take_eq next other, mailbox, List.tail_cons, inStep_iff, overlooks.noted,
    overlooks.background, engine]
  dsimp only
  rw [turn_backgrounded]
  cases declared : m.lifecycle? with
  | none =>
    rw [declared] at inStep
    exact inStep
  | some event =>
    rw [declared] at inStep
    exact inStep.2

theorem recordFollower_followers (event : LifecycleEvent) (c : Core σ L)
    (told : Told (Follower L) Command) :
    (recordFollower event c told).followers = c.followers ∧
    (recordFollower event c told).engineFollower = c.engineFollower := by
  unfold recordFollower
  split
  · unfold postWeakly post
    split
    · split <;> exact ⟨rfl, rfl⟩
    · exact ⟨rfl, rfl⟩
  · dsimp only
    rw [collect_eq]
    exact ⟨rfl, rfl⟩

theorem declare_followers (c : Core σ L) (event : LifecycleEvent) :
    (c.declare event).followers = (c.followers.notify (follow event) c.world.outside).2.1 ∧
    (c.declare event).engineFollower = c.engineFollower := by
  have fold : ∀ (told : List (Told (Follower L) Command)) (c : Core σ L),
      (told.foldl (recordFollower event) c).followers = c.followers ∧
      (told.foldl (recordFollower event) c).engineFollower = c.engineFollower := by
    intro told
    induction told with
    | nil => exact fun c => ⟨rfl, rfl⟩
    | cons first rest ih =>
      intro c
      obtain ⟨followers, registration⟩ := recordFollower_followers event c first
      obtain ⟨followers', registration'⟩ := ih (recordFollower event c first)
      exact ⟨followers'.trans followers, registration'.trans registration⟩
  unfold declare
  dsimp only
  generalize c.followers.notify (follow event) c.world.outside = notified
  obtain ⟨followers, registration⟩ := fold notified.1 { c with
    followers := notified.2.1
    world := { c.world with outside := notified.2.2 } }
  split <;> exact ⟨followers, registration⟩

/-- Whoever is told of a declaration takes back at most the own registration. -/
def KeepsToItself (σ L : Type) [Surroundings σ L] : Prop :=
  ∀ (outside : σ) (next : UInt64) (own removed : ListenerId) (listener : L) (event : LifecycleEvent),
    .remove removed ∈ (Surroundings.react outside next own listener event.notice).1.edits →
      removed = own

/-- No other follower has the engine's number. -/
def Numbered (c : Core σ L) : Prop :=
  ∀ entry ∈ c.followers.entries, some entry.1 = c.engineFollower → entry.2.isEngine

omit [Surroundings σ L] in
/-- While there are numbers left for the followers, no other one has the engine's. -/
theorem Registered.numbered (registered : c.Registered) (unexhausted : c.followers.Unexhausted) :
    c.Numbered := by
  obtain ⟨id, registration, has⟩ := registered
  intro entry mem own
  have alone : (id, Follower.engine) ∈ c.followers.entries.filter (·.2.isEngine) := by
    rw [has]
    exact List.mem_singleton_self _
  have engine := (List.mem_filter.mp alone).1
  have same : entry.1 = id := Option.some.inj (own.trans registration)
  rw [unexhausted.eq_of_id mem engine same]
  rfl

theorem Registered.declare (registered : c.Registered) (numbered : c.Numbered)
    (keeps : KeepsToItself σ L) (event : LifecycleEvent) : (c.declare event).Registered := by
  obtain ⟨id, registration, has⟩ := registered
  obtain ⟨followers, same⟩ := c.declare_followers event
  refine ⟨id, same.trans registration, ?_⟩
  rw [followers]
  refine has.tell fun entry mem r outside has => ?_
  obtain ⟨own, follower⟩ := entry
  cases follower with
  | engine => exact has
  | listener listener =>
    have other : own ≠ id := by
      rintro rfl
      exact absurd (numbered _ mem registration.symm) Bool.false_ne_true
    refine has.edits fun removed mem => ?_
    rwa [keeps outside r.next own removed listener event mem]

omit [Surroundings σ L] in
/-- A declaration gets to the engine once, if the engine can be reached. -/
theorem Registered.notes (registered : c.Registered) (event : LifecycleEvent) (reached : Bool) :
    c.followers.entries.filterMap (note? event reached) = if reached then [event] else [] := by
  obtain ⟨id, _, has⟩ := registered
  have engine : c.followers.entries.filterMap (note? event reached) =
      (c.followers.entries.filter (·.2.isEngine)).filterMap (note? event reached) := by
    rw [List.filterMap_filter]
    congr 1
    funext ⟨id, follower⟩
    cases follower <;> rfl
  rw [engine, has]
  cases reached <;> rfl

/-- What the signal is asked has to do with nothing, or it declares something. Then the engine still
is registered, and the declaration waits in its mailbox if the engine can be reached. -/
theorem Registered.signal (registered : c.Registered) (numbered : c.Numbered)
    (keeps : KeepsToItself σ L) (call : SignalCall) :
    (c.declares (.signal call) = [] ∧ c.Overlooks (c.act (.signal call))) ∨
    ∃ event, c.declares (.signal call) ≠ [] ∧ event.isBackground ≠ c.signal.background ∧
      (c.act (.signal call)).signal.background = event.isBackground ∧
      (c.act (.signal call)).noted =
        c.noted ++ (if (c.act (.signal call)).listens then [event] else []) ∧
      (c.act (.signal call)).Registered := by
  rcases c.signal.outcome_background c.now call with
    ⟨quiet, same⟩ | ⟨event, declared, turns, background⟩
  · refine .inl ⟨?_, c.absorb_overlooks quiet same⟩
    rw [declares, quiet]
    rfl
  · have tells := c.absorb_tells (c.signal.outcome c.now call)
    refine .inr ⟨event, ?_, turns, ?_, ?_, ?_⟩
    · rw [declares, declared]
      exact List.cons_ne_nil _ _
    · rw [← background]
      exact congrArg Signal.background tells.signal
    · rw [← registered.notes event]
      have noted := tells.noted
      rw [declared, Option.toList_some, List.flatMap_singleton] at noted
      exact noted
    · show (c.absorb _).Registered
      unfold absorb
      rw [declared]
      exact Registered.declare (c := { c with
        signal := (c.signal.outcome c.now call).signal
        world := c.world.logSignal (c.signal.outcome c.now call).log }) registered numbered keeps _

/-- Only a message that the engine takes makes it think that the app is elsewhere. -/
theorem act_backgrounded (settled : c.Settled) {action : Action σ L} (other : action ≠ .take) :
    (c.act action).world.engine.backgrounded = c.world.engine.backgrounded := by
  rcases act_engine settled action with ⟨_, same⟩ | ⟨_, _, _, take, _⟩ | ⟨shown, ended⟩
  · rw [same]
  · exact absurd take other
  · rw [ended]
    rfl

omit [Surroundings σ L] in
/-- Where nothing happens that has to do with the signal, the engine stays in step. -/
theorem InStep.overlooks (inStep : c.InStep) (overlooks : c.Overlooks c')
    (same : c'.world.engine.backgrounded = c.world.engine.backgrounded) : c'.InStep := by
  rw [inStep_iff] at inStep ⊢
  rwa [same, overlooks.noted, overlooks.background]

/-- Actions of neither the engine nor the signal have nothing to do with the signal. -/
theorem act_overlooks (c : Core σ L) {action : Action σ L} (taken : action ≠ .take)
    (closed : action ≠ .close) (called : ∀ call, action ≠ .signal call)
    (changed : ∀ circumstances, action ≠ .change circumstances) : c.Overlooks (c.act action) := by
  cases action with
  | command command => exact c.postWeakly_overlooks (Message.lifecycle?_of_isCommand command.2)
  | output | focus => exact c.postWeakly_overlooks rfl
  | take => contradiction
  | close => contradiction
  | ask => exact c.beginFlight_overlooks
  | answer request result =>
    rw [act]
    split
    · exact c.land_overlooks request result
    · exact .refl c
  | beat => exact c.beat_overlooks
  | signal call => exact absurd rfl (called call)
  | attach => exact c.attach_overlooks
  | resolve transferId => exact c.resolveItem_overlooks transferId
  | log => exact ⟨rfl, rfl, rfl, rfl⟩
  | change circumstances => exact absurd rfl (changed circumstances)

/-- An engine that closes without ending does nothing. -/
theorem act_close_eq (running : (c.act .close).phase = .running) : c.act .close = c := by
  rw [act] at running ⊢
  unfold endUnlessHeld at running ⊢
  split
  case isTrue idle =>
    rw [if_pos idle] at running
    split
    case isTrue => rfl
    case isFalse free =>
      rw [if_neg free, finish, collect_eq] at running
      contradiction
  case isFalse => rfl

/-- The message that ends the engine leaves none that runs. -/
theorem ne_shutdown_of_running (settled : c.Settled) {m : Message} (next : c.next? = some m)
    (running : (c.act .take).phase = .running) : m ≠ .shutdown := by
  rintro rfl
  obtain ⟨_, rest, mailbox⟩ := mailbox_of_next next
  have moves := act_moves settled (.take : Action σ L)
  generalize c.act .take = c' at moves running
  cases moves with
  | stays untaken => simp [takes, next] at untaken
  | turns _ first other => exact other (List.cons.inj (first.symm.trans mailbox)).1
  | ends _ _ ended => cases ended.symm.trans running

/-- The engine's registration stays, while the engine runs. -/
theorem Registered.act (registered : c.Registered) (settled : c.Settled) (numbered : c.Numbered)
    (keeps : KeepsToItself σ L) {action : Action σ L}
    (changes : ∀ circumstances, action = .change circumstances → ∀ id,
      c.followers.HasEngine id → circumstances.followers.HasEngine id)
    (running : (c.act action).phase = .running) : (c.act action).Registered := by
  by_cases taken : action = .take
  · subst taken
    cases next : c.next? with
    | none => rwa [act_take_nothing next]
    | some m =>
      rw [act_take_eq next (ne_shutdown_of_running settled next running)]
      exact (collect_overlooks _).registered registered
  by_cases closed : action = .close
  · subst closed
    rwa [act_close_eq running]
  by_cases called : ∃ call, action = .signal call
  · obtain ⟨call, rfl⟩ := called
    rcases registered.signal numbered keeps call with
      ⟨_, overlooks⟩ | ⟨_, _, _, _, _, registered'⟩
    · exact overlooks.registered registered
    · exact registered'
  by_cases changed : ∃ circumstances, action = .change circumstances
  · obtain ⟨circumstances, rfl⟩ := changed
    obtain ⟨id, registration, has⟩ := registered
    exact ⟨id, registration, changes circumstances rfl id has⟩
  exact (act_overlooks c taken closed (not_exists.mp called) (not_exists.mp changed)).registered
    registered

/-- The engine stays in step exactly if it hears of what is declared. -/
theorem InStep.act_iff (inStep : c.InStep) (registered : c.Registered) (settled : c.Settled)
    (numbered : c.Numbered) (keeps : KeepsToItself σ L) {action : Action σ L}
    (running : (c.act action).phase = .running) :
    (c.act action).InStep ↔ ¬ (c.declares action ≠ [] ∧ (c.act action).listens = false) := by
  have quiet : c.declares action = [] → (c.act action).InStep →
      ((c.act action).InStep ↔ ¬ (c.declares action ≠ [] ∧ (c.act action).listens = false)) :=
    fun nothing inStep => iff_of_true inStep fun missed => missed.1 nothing
  by_cases taken : action = .take
  · subst taken
    refine quiet rfl ?_
    cases next : c.next? with
    | none => rwa [act_take_nothing next]
    | some m => exact inStep.take next (ne_shutdown_of_running settled next running)
  have same := act_backgrounded settled taken
  by_cases closed : action = .close
  · subst closed
    refine quiet rfl ?_
    rwa [act_close_eq running]
  by_cases called : ∃ call, action = .signal call
  · obtain ⟨call, rfl⟩ := called
    rcases registered.signal numbered keeps call with
      ⟨nothing, overlooks⟩ | ⟨event, declares, turns, background, noted, _⟩
    · exact quiet nothing (inStep.overlooks overlooks same)
    · rw [inStep_iff] at inStep ⊢
      rw [same, noted, background]
      cases (c.act (.signal call)).listens with
      | true => exact iff_of_true (inStep.snoc turns) (by simp)
      | false =>
        refine iff_of_false (fun missed => turns ?_) (by simp [declares])
        rw [if_neg Bool.false_ne_true, List.append_nil] at missed
        exact (inStep.unique missed).symm
  by_cases changed : ∃ circumstances, action = .change circumstances
  · obtain ⟨circumstances, rfl⟩ := changed
    exact quiet rfl ⟨inStep.alternate, inStep.first, inStep.last, inStep.agreed⟩
  have nothing : c.declares action = [] := by
    cases action with
    | signal call => exact absurd ⟨call, rfl⟩ called
    | _ => rfl
  exact quiet nothing (inStep.overlooks
    (act_overlooks c taken closed (not_exists.mp called) (not_exists.mp changed)) same)

/-- What is declared does not end the engine. -/
theorem running_of_declares (settled : c.Settled) (running : c.phase = .running)
    {action : Action σ L} (declares : c.declares action ≠ []) :
    (c.act action).phase = .running := by
  cases action with
  | signal call => exact (absorb_stays settled _).phase.trans running
  | _ => exact absurd rfl declares

section Run

-- In a run the engine's registration is the engine's own business.
variable (keeps : KeepsToItself σ L) {actions : List (Action σ L)}
  (numbered : ∀ earlier, earlier <+: actions → (c.after earlier).Registered →
    (c.after earlier).Numbered)
  (changes : ∀ earlier circumstances later, actions = earlier ++ .change circumstances :: later →
    ∀ id, (c.after earlier).followers.HasEngine id → circumstances.followers.HasEngine id)
include keeps numbered changes

/-- The engine is registered from its start to its end. -/
theorem Registered.after (registered : c.Registered) (sound : c.Sound) {earlier : List (Action σ L)}
    (within : earlier <+: actions) (running : (c.after earlier).phase = .running) :
    (c.after earlier).Registered := by
  induction earlier using List.reverseRecOn with
  | nil => exact registered
  | append_singleton earlier action ih =>
    obtain ⟨later, whole⟩ := within
    rw [List.append_assoc] at whole
    rw [after_append] at running ⊢
    have settled := (sound.after earlier).settled
    have before : earlier <+: actions := ⟨_, whole⟩
    have there := ih before (running_of_act settled running)
    refine there.act settled (numbered earlier before there) keeps ?_ running
    rintro circumstances rfl id has
    exact changes earlier circumstances later whole.symm id has

/-- The engine stays in step along a run exactly as long as it can be reached when something is
declared. -/
theorem InStep.after_iff (inStep : c.InStep) (registered : c.Registered) (sound : c.Sound) :
    (∀ initial, initial <+: actions → (c.after initial).phase = .running →
      (c.after initial).InStep) ↔
    ∀ earlier action later, actions = earlier ++ action :: later →
      ¬ ((c.after earlier).phase = .running ∧ (c.after earlier).declares action ≠ [] ∧
        (c.after (earlier ++ [action])).listens = false) := by
  refine forall_prefix_iff (fun _ => inStep) fun earlier action later whole before => ?_
  have prior : earlier <+: actions := ⟨_, whole.symm⟩
  have settled := (sound.after earlier).settled
  rw [after_append]
  by_cases running : ((c.after earlier).act action).phase = .running
  case pos =>
    have ran := running_of_act settled running
    have there := registered.after keeps numbered changes sound prior ran
    have step := (before ran).act_iff there settled (numbered earlier prior there) keeps running
    exact ⟨fun inStep missed => step.mp (inStep running) missed.2,
      fun heard _ => step.mpr fun missed => heard ⟨ran, missed⟩⟩
  case neg =>
    exact iff_of_true (fun still => absurd still running)
      fun ⟨ran, declares, _⟩ => running (running_of_declares settled ran declares)

end Run

/-- In a run the engine's registration is the engine's own business: whoever is told of a declaration
takes back at most the own one, no other follower has the engine's number, and what is registered or
taken back otherwise is not the engine. -/
structure SparesEngine (c : Core σ L) (actions : List (Action σ L)) : Prop where
  keeps : KeepsToItself σ L
  /-- Numbers come round again when as many followers were registered as there are numbers. Before
  that it is so of itself, by `Registered.numbered`. -/
  numbered : ∀ earlier, earlier <+: actions → (c.after earlier).Numbered
  changes : ∀ earlier circumstances later, actions = earlier ++ .change circumstances :: later →
    ∀ id, (c.after earlier).followers.HasEngine id → circumstances.followers.HasEngine id

/-- An engine registers itself when it starts. -/
theorem launch_registered
    (fresh : ∀ entry ∈ c.followers.entries, entry.2.isEngine = false) (interval : Duration) :
    (c.launch interval).Registered := by
  refine ⟨_, rfl, ?_⟩
  have others : c.followers.entries.filter (·.2.isEngine) = [] := by simpa using fresh
  have added : (c.followers.add .engine).2.entries =
    c.followers.entries ++ [(⟨c.followers.next⟩, .engine)] := rfl
  show ((c.followers.add .engine).2.entries).filter (·.2.isEngine) = _
  rw [added, List.filter_append, others]
  rfl

/-- An engine that starts asks where the app is. -/
theorem launch_inStep (blank : c.Blank) (interval : Duration) : (c.launch interval).InStep := by
  have empty : (c.launch interval).mailbox = [] := blank.mailbox
  have agreed : (c.launch interval).world.engine.backgrounded =
      (c.launch interval).signal.background := by
    rw [(launch_world blank interval).1]
    rfl
  rw [inStep_iff, noted, empty]
  exact agreed

/-- The engine and the signal agree on where the app is. Whatever is interleaved with the calls of the
signal, in every state in which the engine runs the declarations that wait for it alternate; the first
of them is news to the engine and the last of them is where the signal takes the app to be; and where
none waits the two agree, also where the app was away before the engine was started. This holds exactly
as long as somebody can still send the engine messages when something is declared: an engine that
nobody can reach any more only handles what waits and ends. -/
theorem engine_follows_signal (blank : c.Blank)
    (fresh : ∀ entry ∈ c.followers.entries, entry.2.isEngine = false) (interval : Duration)
    {actions : List (Action σ L)} (spares : (c.launch interval).SparesEngine actions) :
    let launched := c.launch interval
    (∀ initial, initial <+: actions → (launched.after initial).phase = .running →
      (launched.after initial).InStep) ↔
    ∀ earlier action later, actions = earlier ++ action :: later →
      ¬ ((launched.after earlier).phase = .running ∧
        (launched.after earlier).declares action ≠ [] ∧
        (launched.after (earlier ++ [action])).listens = false) := by
  intro launched
  have registered : launched.Registered := launch_registered fresh interval
  have inStep : launched.InStep := launch_inStep blank interval
  exact inStep.after_iff spares.keeps (fun earlier within _ => spares.numbered earlier within)
    spares.changes registered (Sound.launch blank interval)

/-- While somebody holds the engine it is in step in every state in which it runs, whatever happens.
Whoever is told of a declaration takes back at most the own registration, there are fewer registrations
in all than numbers, and what is registered or taken back otherwise is not the engine. -/
theorem inStep_while_held (blank : c.Blank)
    (fresh : ∀ entry ∈ c.followers.entries, entry.2.isEngine = false) (interval : Duration)
    (keeps : KeepsToItself σ L) {actions : List (Action σ L)}
    (unexhausted : ∀ earlier, earlier <+: actions →
      ((c.launch interval).after earlier).followers.Unexhausted)
    (changes : ∀ earlier circumstances later, actions = earlier ++ .change circumstances :: later →
      ∀ id, ((c.launch interval).after earlier).followers.HasEngine id →
        circumstances.followers.HasEngine id)
    (held : ∀ earlier, earlier <+: actions → ((c.launch interval).after earlier).isHeld)
    {initial : List (Action σ L)} (within : initial <+: actions)
    (running : ((c.launch interval).after initial).phase = .running) :
    ((c.launch interval).after initial).InStep := by
  have sound := Sound.launch blank interval
  have numbered : ∀ earlier, earlier <+: actions → ((c.launch interval).after earlier).Registered →
      ((c.launch interval).after earlier).Numbered :=
    fun earlier within registered => registered.numbered (unexhausted earlier within)
  have heard := (launch_inStep blank interval).after_iff keeps numbered changes
    (launch_registered fresh interval) sound
  refine heard.mpr (fun earlier action later whole ⟨ran, declares, missed⟩ => ?_) initial within running
  have runs : ((c.launch interval).after (earlier ++ [action])).phase = .running := by
    rw [after_append]
    exact running_of_declares (sound.after earlier).settled ran declares
  have reached := held (earlier ++ [action]) ⟨later, by rw [whole, List.append_assoc]; rfl⟩
  simp [listens, runs, reached] at missed

/-- A follower that registers another one like itself when it is told something, takes its own
registration back, and breaks off. -/
inductive Fickle where
  | follower

end Core

instance : Surroundings Obliging Core.Fickle where
  answer outside call := Surroundings.answer Empty outside call
  react outside _ own listener _ :=
    ({ edits := [.add listener, .remove own], breakdown := some (.text "listener bug") }, outside)
  keepsRunning _ _ := false

namespace Core

/-- A core before its engine starts, while the app is away and a fickle follower is registered. -/
def followed : Core Obliging Fickle where
  world := { outside := .host }
  signal := { debounce := .zero, background := true }
  followers := (Registry.add {} (.listener .follower)).2

/-- The app comes back, leaves and comes back before the engine hears of any of it, and other messages
come between. -/
def restless : List (Action Obliging Fickle) :=
  [.command .play, .signal .foreground, .command ⟨.snapshot, rfl⟩, .signal .background,
    .signal (.expire 2), .take, .take, .signal .foreground, .take, .take, .take]

theorem fickle_keepsToItself : KeepsToItself Obliging Fickle := by
  intro _ _ own removed listener _ mem
  have mem : Edit.remove removed ∈ [.add listener, .remove own] := mem
  simpa using mem

theorem restless_sparesEngine : (followed.launch .zero).SparesEngine restless := by
  refine ⟨fickle_keepsToItself, ?_, ?_⟩
  · intro earlier within
    rw [List.prefix_iff_eq_take.mp within]
    have all : ∀ n ≤ restless.length, ∀ entry ∈
        ((followed.launch .zero).after (restless.take n)).followers.entries,
        some entry.1 = ((followed.launch .zero).after (restless.take n)).engineFollower →
          entry.2.isEngine := by
      decide +kernel
    exact all _ within.length_le
  · intro earlier circumstances later whole
    have mem : Action.change circumstances ∈ restless := by simp [whole]
    simp [restless] at mem

/-- While two declarations wait behind another message, the engine is in step. -/
theorem engine_follows_signal_restless :
    let launched := followed.launch .zero
    (launched.after (restless.take 8)).InStep ∧
    (launched.after (restless.take 8)).noted = [.becameBackground, .becameForeground] ∧
    (launched.after (restless.take 8)).world.engine.backgrounded = false := by
  intro launched
  have blank : followed.Blank :=
    ⟨rfl, rfl, rfl, ⟨rfl, rfl⟩, fun _ mem => absurd mem List.not_mem_nil⟩
  have reached : ∀ n ≤ restless.length, (launched.after (restless.take n)).listens = true := by
    decide +kernel
  have inStep := (engine_follows_signal blank (by decide +kernel) .zero restless_sparesEngine).mpr
    fun earlier action later whole ⟨_, _, missed⟩ => by
      have within : earlier ++ [action] <+: restless :=
        ⟨later, by rw [whole, List.append_assoc]; rfl⟩
      rw [List.prefix_iff_eq_take.mp within, reached _ within.length_le] at missed
      contradiction
  exact ⟨inStep _ (List.take_prefix 8 restless) (by decide +kernel), by decide +kernel,
    by decide +kernel⟩

end Core
end MediaPlayback
