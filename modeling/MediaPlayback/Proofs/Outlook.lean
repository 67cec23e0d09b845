import MediaPlayback.Proofs.Publish
import MediaPlayback.Proofs.Story

/-! What an action does to a core's front. Others see something of playback only when the engine takes
a message or ends. -/

namespace MediaPlayback

/-- Whether an action is nothing that the engine or its prepares take part in. -/
def Action.isAloof {σ L : Type} : Action σ L → Bool
  | .take | .close | .ask | .answer .. => false
  | _ => true

namespace Core

variable {σ L : Type}

/-- The prepares under way, and those that a turn left to be. -/
def prospects (c : Core σ L) : List Flight :=
  c.flights ++ c.world.tasks.map fun task => { task : Flight }

/-- From one core to another, others saw nothing of playback, and no prepare was begun. -/
structure Hides (c c' : Core σ L) : Prop where
  coverage : c'.world.coverage = c.world.coverage
  prospects : c'.prospects = c.prospects

variable {c c' c'' : Core σ L}

theorem Hides.refl (c : Core σ L) : c.Hides c := ⟨rfl, rfl⟩

theorem Hides.trans (first : c.Hides c') (second : c'.Hides c'') : c.Hides c'' :=
  ⟨second.coverage.trans first.coverage, second.prospects.trans first.prospects⟩

/-- Where nothing is left over from turns, the prepares under way are as they were. -/
theorem Hides.flights (hides : c.Hides c') (before : c.world.tasks = [])
    (after : c'.world.tasks = []) : c'.flights = c.flights := by
  have same := hides.prospects
  unfold Core.prospects at same
  rwa [before, after, List.map_nil, List.append_nil, List.append_nil] at same

theorem post_hides (c : Core σ L) (m : Message) : c.Hides (c.post m) := by
  unfold post
  split
  · exact ⟨rfl, rfl⟩
  · exact .refl c

theorem collect_hides (c : Core σ L) : c.Hides c.collect := by
  rw [collect_eq]
  exact ⟨rfl, List.append_nil _⟩

theorem logSignal_front (w : World σ L) (entries : List (LogLevel × String)) :
    (w.logSignal entries).coverage = w.coverage ∧ (w.logSignal entries).tasks = w.tasks := by
  induction entries generalizing w with
  | nil => exact ⟨rfl, rfl⟩
  | cons entry rest ih => exact ih (w.log .lifecycle entry.1 entry.2 [])

theorem recordTold_coverage (event : LifecycleEvent) (w : World σ L) (told : Told L Command) :
    (World.recordTold event.notice w told).coverage = w.coverage ∧
    (World.recordTold event.notice w told).tasks = w.tasks := by
  unfold World.recordTold
  cases event <;> cases told.breakdown <;> exact ⟨rfl, rfl⟩

/-- The world may go on as long as nobody sees anything of it. -/
theorem Hides.of_world (coverage : c'.world.coverage = c.world.coverage)
    (tasks : c'.world.tasks = c.world.tasks) (flights : c'.flights = c.flights) : c.Hides c' :=
  ⟨coverage, by rw [Core.prospects, tasks, flights, Core.prospects]⟩

variable [Surroundings σ L]

theorem postWeakly_hides (c : Core σ L) (m : Message) : c.Hides (c.postWeakly m) := by
  unfold postWeakly
  split
  · exact c.post_hides m
  · exact .refl c

theorem recordFollower_hides (event : LifecycleEvent) (c : Core σ L)
    (told : Told (Follower L) Command) : c.Hides (recordFollower event c told) := by
  unfold recordFollower
  split
  case h_1 => exact c.postWeakly_hides _
  case h_2 listener _ =>
    obtain ⟨coverage, tasks⟩ :=
      recordTold_coverage event c.world ⟨told.id, listener, told.posts, told.breakdown⟩
    refine Hides.trans ?_ (collect_hides _)
    exact .of_world coverage tasks rfl

theorem declare_hides (c : Core σ L) (event : LifecycleEvent) : c.Hides (c.declare event) := by
  have fold : ∀ (told : List (Told (Follower L) Command)) (c : Core σ L),
      c.Hides (told.foldl (recordFollower event) c) := by
    intro told
    induction told with
    | nil => exact fun c => .refl c
    | cons first rest ih => exact fun c => (recordFollower_hides event c first).trans (ih _)
  unfold declare
  dsimp only
  generalize c.followers.notify (follow event) c.world.outside = notified
  have told : c.Hides (notified.1.foldl (recordFollower event) { c with
      followers := notified.2.1
      world := { c.world with outside := notified.2.2 } }) := by
    refine Hides.trans ?_ (fold _ _)
    exact .of_world rfl rfl rfl
  split
  · exact told.trans ⟨rfl, rfl⟩
  · exact told

theorem absorb_hides (c : Core σ L) (outcome : Signal.Outcome) : c.Hides (c.absorb outcome) := by
  obtain ⟨coverage, tasks⟩ := logSignal_front c.world outcome.log
  have logged : c.Hides { c with
      signal := outcome.signal
      world := c.world.logSignal outcome.log } := .of_world coverage tasks rfl
  unfold absorb
  dsimp only
  split
  · exact logged
  · exact logged.trans (declare_hides _ _)

theorem attach_hides (c : Core σ L) : c.Hides c.attach.2 := by
  have read : c.Hides c.readAppState := by
    unfold readAppState
    obtain ⟨result, outside, h⟩ := c.world.exists_call .appState
    rw [h]
    cases result with
    | error => exact ⟨rfl, rfl⟩
    | ok state =>
      dsimp only
      split
      · exact ⟨rfl, rfl⟩
      · refine Hides.trans ?_ (absorb_hides _ _)
        exact .of_world rfl rfl rfl
  have subscribed : c.readAppState.Hides c.readAppState.subscribeAppState.2 := by
    unfold subscribeAppState
    obtain ⟨result, outside, h⟩ := c.readAppState.world.exists_call .subscribeAppState
    rw [h]
    cases result <;> exact ⟨rfl, rfl⟩
  exact read.trans subscribed

theorem resolveItem_hides (c : Core σ L) (transferId : String) :
    c.Hides (c.resolveItem transferId).2 := by
  have resolved : (c.world.resolveItem transferId).2.coverage = c.world.coverage ∧
      (c.world.resolveItem transferId).2.tasks = c.world.tasks := by
    unfold World.resolveItem
    obtain ⟨result, outside, h⟩ := c.world.exists_call (.resolve transferId)
    rw [h]
    cases result with
    | error => exact ⟨rfl, rfl⟩
    | ok attachment =>
      dsimp only
      obtain ⟨result, outside', h'⟩ := World.exists_call { c.world with
        outside, trace := .called (.resolve transferId) (.ok attachment) :: c.world.trace }
        (.conversationFor transferId)
      rw [h']
      cases result <;> exact ⟨rfl, rfl⟩
  unfold resolveItem
  rcases h : c.world.resolveItem transferId with ⟨_ | item, w⟩ <;> rw [h] at resolved
  · exact .of_world resolved.1 resolved.2 rfl
  · exact .of_world resolved.1 resolved.2 rfl

theorem beat_hides (c : Core σ L) : c.Hides c.beat := by
  unfold beat
  split
  · exact .refl c
  · split
    · refine Hides.trans ?_ (post_hides _ _)
      exact .of_world rfl rfl rfl
    · exact ⟨rfl, rfl⟩

omit [Surroundings σ L] in
/-- Besides a prepare that is asked for there is nothing to see of its beginning. -/
theorem beginFlight_coverage (c : Core σ L) : ∃ asked,
    c.beginFlight.world.coverage = { c.world.coverage with asked } := by
  unfold beginFlight
  split
  · exact ⟨_, rfl⟩
  · split <;> exact ⟨_, rfl⟩

theorem land_coverage (c : Core σ L) (request : Nat) (result : Except HostError PreparedSession) :
    (c.land request result).world.coverage = c.world.coverage := by
  unfold land
  split
  · rfl
  · dsimp only
    split
    · exact (post_hides _ _).coverage
    · cases result with
      | error => rfl
      | ok prepared =>
        have unloaded : (c.world.call (.unload prepared.session)).2.front = c.world.front :=
          c.world.call_front rfl
        exact congrArg Front.toCoverage unloaded

/-- The world as it is in an action when the engine publishes what changed, if it does. -/
def publishing? (c : Core σ L) : Action σ L → Option (World σ L)
  | .take => c.next?.map fun m =>
    let noted := c.world.log .engine .trace "Engine command" [("command", m.name)]
    match m with
    | .shutdown => noted.reset
    | m => noted.handle m
  | .close =>
    if c.phase = .running && c.mailbox.isEmpty && !c.isHeld then some c.world.reset else none
  | _ => none

/-- What others can see of an action: nothing, the turn of a message, or the end of the engine. -/
inductive Reveals (c : Core σ L) : Action σ L → Core σ L → Prop where
  | nothing {action : Action σ L} {c' : Core σ L} {asked : List OutputRequest}
    (untaken : c.takes action = []) (engine : c'.world.engine = c.world.engine)
    (hides : c'.world.coverage = { c.world.coverage with asked }) : Reveals c action c'
  | turn {m : Message} {c' : Core σ L} (next : c.next? = some m) (other : m ≠ .shutdown)
    (world : c'.world = { c.world.turn m with posted := [], tasks := [] }) : Reveals c .take c'
  | ending {action : Action σ L} {w : World σ L} {c' : Core σ L}
    (taken : ∀ m ∈ c.takes action, m = .shutdown)
    (publishing : c.publishing? action = some w.reset) (before : w.engine = c.world.engine)
    (front : w.front = c.world.front) (engine : c'.world.engine = w.reset.publish.engine)
    (reveals : c'.world.front = w.reset.publish.front) : Reveals c action c'

theorem finish_reveals (c : Core σ L) : c.finish.world.engine = c.world.reset.publish.engine ∧
    c.finish.world.front = c.world.reset.publish.front := by
  unfold finish
  rw [collect_eq]
  exact ⟨rfl, rfl⟩

theorem act_hides (c : Core σ L) {action : Action σ L} (aloof : action.isAloof) :
    c.Hides (c.act action) := by
  cases action with
  | command | output | focus => exact c.postWeakly_hides _
  | beat => exact c.beat_hides
  | signal => exact c.absorb_hides _
  | attach => exact c.attach_hides
  | resolve => exact c.resolveItem_hides _
  | log | change => exact ⟨rfl, rfl⟩
  | take | close | ask | answer => contradiction

/-- Where no message waits, the engine takes none. -/
theorem act_take_nothing (nothing : c.next? = none) : c.act .take = c := by
  rw [act]
  split
  case isTrue running =>
    have empty : c.mailbox = [] := by simpa [next?, running] using nothing
    rw [takeMessage, empty]
  case isFalse => rfl

/-- An action in which the engine takes no message and does not end may at most ask for prepares. -/
theorem nothing_reveals (settled : c.Settled) {action : Action σ L} (untaken : c.takes action = [])
    (other : action ≠ .close)
    (hides : ∃ asked, (c.act action).world.coverage = { c.world.coverage with asked }) :
    c.Reveals action (c.act action) := by
  obtain ⟨asked, hides⟩ := hides
  refine .nothing untaken ?_ hides
  have moves := act_moves settled action
  generalize c.act action = c' at moves ⊢
  cases moves with
  | stays _ _ stays => exact stays.engine
  | turns running next => simp [takes, next?, running, next] at untaken
  | ends running cause =>
    rcases cause with ⟨rfl, rest, next⟩ | ⟨rfl, _, _⟩
    · simp [takes, next?, running, next] at untaken
    · exact absurd rfl other
  | delivers | lapses | refuses => rfl

theorem shutdown_reveals (next : c.next? = some .shutdown) : c.Reveals .take (c.act .take) := by
  have running : c.phase = .running := by
    unfold next? at next
    split at next <;> first | assumption | contradiction
  obtain ⟨rest, mailbox⟩ : ∃ rest, c.mailbox = .shutdown :: rest := by
    rw [next?, if_pos running] at next
    exact List.head?_eq_some_iff.mp next
  let noted := c.world.log .engine .trace "Engine command" [("command", "shutdown")]
  obtain ⟨engine, front⟩ := finish_reveals { c with world := noted }
  have taken : ∀ m ∈ c.takes .take, m = .shutdown := by simp [takes, next]
  have publishing : c.publishing? .take = some noted.reset := by
    rw [publishing?, next]
    rfl
  rw [act, if_pos running]
  unfold takeMessage
  split
  case h_1 empty => simp [empty] at mailbox
  case h_2 => exact .ending taken publishing rfl rfl engine front
  case h_3 other more =>
    exact absurd (List.cons.inj (more.symm.trans mailbox)).1 (by simpa using other)

theorem close_reveals (c : Core σ L) : c.Reveals .close (c.act .close) := by
  rw [act]
  unfold endUnlessHeld
  split
  case isTrue idle =>
    split
    case isTrue => exact .nothing rfl rfl rfl
    case isFalse free =>
      obtain ⟨engine, front⟩ := c.finish_reveals
      have publishing : c.publishing? .close = some c.world.reset := by
        rw [publishing?, idle, Bool.eq_false_iff.mpr free]
        rfl
      exact .ending (by simp [takes]) publishing rfl rfl engine front
  case isFalse => exact .nothing rfl rfl rfl

/-- Nothing happens in an action that `Core.Reveals` does not list. -/
theorem act_reveals (settled : c.Settled) (action : Action σ L) :
    c.Reveals action (c.act action) := by
  cases action with
  | take =>
    cases next : c.next? with
    | none =>
      exact nothing_reveals settled (by simp [takes, next]) (by simp)
        ⟨_, congrArg (·.world.coverage) (act_take_nothing next)⟩
    | some m =>
      by_cases ends : m = .shutdown
      · exact shutdown_reveals (ends ▸ next)
      · obtain ⟨_, _, world⟩ := act_take next ends
        exact .turn next ends world
  | close => exact c.close_reveals
  | ask => exact nothing_reveals settled rfl (by simp) c.beginFlight_coverage
  | answer request result =>
    refine nothing_reveals settled rfl (by simp) ⟨c.world.coverage.asked, ?_⟩
    rw [act]
    split
    · exact c.land_coverage request result
    · rfl
  | command | output | focus | beat | signal | attach | resolve | log | change =>
    exact nothing_reveals settled rfl (by simp) ⟨_, (c.act_hides rfl).coverage⟩

end Core
end MediaPlayback
