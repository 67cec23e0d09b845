import MediaPlayback.Proofs.Outlook

/-! The app in the background. The notification is shown and the wake lock held only while the app is
there and playback is not stopped, and then the notification is always shown, unless the host refused
to show it. -/

namespace MediaPlayback

namespace Engine

/-- Something is shown or held only in the background, and only while others know that playback is
not stopped. -/
def Withdraws (e : Engine) : Prop :=
  e.shown ∨ e.holdsWakeLock → e.backgrounded ∧ e.lastState ≠ .stopped

/-- The notification is shown in the background exactly while others know that playback is not
stopped. -/
def Displays (e : Engine) : Prop := e.shown ↔ e.backgrounded ∧ e.lastState ≠ .stopped

variable {e e' : Engine}

theorem Withdraws.retains (withdraws : e.Withdraws) (retains : e.Retains e') : e'.Withdraws := by
  intro present
  rw [retains.backgrounded, retains.lastState]
  apply withdraws
  rcases retains.held with ⟨shown, lock⟩ | ⟨_, shown, lock⟩
  · rwa [shown, lock] at present
  · simp [shown, lock] at present

/-- What is shown only in the background is not shown at the wrong time once all is published. -/
theorem Withdraws.published (withdraws : e.Withdraws) {shown : Bool}
    (due : shown → e.backgrounded ∧ e.mode.reported ≠ .stopped) : (e.published shown).Withdraws := by
  rintro (visible | held)
  · exact due visible
  · unfold Engine.published at held ⊢
    dsimp only at held ⊢
    split at held
    · contradiction
    case isFalse going =>
      obtain ⟨backgrounded, active⟩ := withdraws (.inr held)
      exact ⟨backgrounded, fun stopped => going ⟨stopped, active⟩⟩

/-- The display is right, or nothing is shown by an engine that has nothing to play. -/
def Prepares (e : Engine) : Prop := e.Displays ∨ e.mode = .idle ∧ e.shown = false

theorem Prepares.retains (displays : e.Displays) (retains : e.Retains e') : e'.Prepares := by
  rcases retains.held with ⟨shown, _⟩ | ⟨idle, hidden, _⟩
  · refine .inl ?_
    rw [Displays, shown, retains.backgrounded, retains.lastState]
    exact displays
  · exact .inr ⟨idle, hidden⟩

theorem Prepares.displays (prepares : e.Prepares) (announced : e.Announced) : e.Displays := by
  rcases prepares with displays | ⟨idle, hidden⟩
  · exact displays
  · simp [Displays, hidden, announced.state, idle, Mode.reported]

end Engine

namespace World

variable {σ L : Type} [Surroundings σ L]

theorem handle_withdraws (w : World σ L) (m : Message) (announced : w.engine.Announced)
    (withdraws : w.engine.Withdraws) : (w.handle m).engine.Withdraws := by
  by_cases declared : ∃ event, m = .lifecycle event
  · obtain ⟨_ | _, rfl⟩ := declared
    · obtain ⟨engine, _⟩ := w.onForeground_front
      rw [handle, engine]
      intro present
      simp at present
    · obtain ⟨lock, ok, engine, kept, _⟩ := w.onBackground_front
      rw [handle, engine]
      intro present
      refine ⟨rfl, fun stopped => ?_⟩
      have quiet : w.engine.mode.reported = .stopped := announced.state.symm.trans stopped
      have nothing : w.away.caption? = none := if_neg fun due => due.2 quiet
      rw [nothing, kept quiet] at present
      have present : w.engine.shown ∨ w.engine.holdsWakeLock := by simpa using present
      exact (withdraws present).2 stopped
  · exact withdraws.retains ((w.handle_engine m).retains fun event same => declared ⟨event, same⟩)

theorem publish_withdraws (w : World σ L) (withdraws : w.engine.Withdraws) :
    w.publish.engine.Withdraws := by
  by_cases announced : w.engine.Announced
  · rw [publish_of_announced w announced]
    exact withdraws
  · obtain ⟨ok, publishes⟩ := w.publish_of_unannounced announced
    rw [publishes.engine]
    refine withdraws.published fun shown => w.caption?_isSome.mp ?_
    exact (Bool.and_eq_true_iff.mp shown).1

/-- Before all is published only a move to the background shows something, and only a tick is
reported. -/
theorem handle_front_news (w : World σ L) {m : Message} (stays : ∀ event, m ≠ .lifecycle event) :
    (w.handle m).front = { w.front with news := (w.handle m).front.news } := by
  by_cases tick : m = .tick
  · subst tick
    obtain ⟨report, front, _⟩ := w.onTick_front
    rw [handle, front]
  · rw [w.handle_front tick stays]

theorem handle_shows (w : World σ L) {m : Message} (stays : ∀ event, m ≠ .lifecycle event) :
    (w.handle m).front.shows = w.front.shows := by
  rw [w.handle_front_news stays]

/-- A message that is handled leaves the display right or nothing shown, if the host shows what it is
asked to show. -/
theorem handle_prepares (w : World σ L) (m : Message) (announced : w.engine.Announced)
    (displays : w.engine.Displays) :
    ∃ shows, (w.handle m).front.shows = shows ++ w.front.shows ∧
      ((∀ shown ∈ shows, shown.2 = true) → (w.handle m).engine.Prepares) := by
  by_cases declared : ∃ event, m = .lifecycle event
  · obtain ⟨_ | _, rfl⟩ := declared
    · obtain ⟨engine, front⟩ := w.onForeground_front
      refine ⟨[], by rw [handle, front]; rfl, fun _ => .inl ?_⟩
      rw [handle, engine]
      simp [Engine.Displays]
    · obtain ⟨lock, ok, engine, _, front⟩ := w.onBackground_front
      refine ⟨(w.away.caption?.map (·, ok)).toList, by rw [handle, front], fun granted => .inl ?_⟩
      have known : w.away.engine.lastState = w.engine.mode.reported := announced.state
      have due : w.away.caption?.isSome ↔ w.engine.mode.reported ≠ .stopped :=
        w.away.caption?_isSome.trans (and_iff_right rfl)
      rw [handle, engine]
      unfold Engine.Displays at displays ⊢
      dsimp only
      rw [known, ← due]
      rw [announced.state, ← due] at displays
      cases told : w.away.caption? with
      | none =>
        rw [told] at displays
        simpa using displays
      | some content =>
        have granted : ok = true := granted (content, ok) (by simp [told])
        simp [granted, away]
  · have stays : ∀ event, m ≠ .lifecycle event := fun event same => declared ⟨event, same⟩
    exact ⟨[], w.handle_shows stays, fun _ => .retains displays ((w.handle_engine m).retains stays)⟩

/-- Publishing puts the display right, if the host shows what it is asked to show. -/
theorem publish_displays (w : World σ L) :
    ∃ shows, w.publish.front.shows = shows ++ w.front.shows ∧
      ((∀ shown ∈ shows, shown.2 = true) → w.engine.Prepares → w.publish.engine.Displays) := by
  by_cases announced : w.engine.Announced
  · rw [publish_of_announced w announced]
    exact ⟨[], rfl, fun _ prepares => prepares.displays announced⟩
  · obtain ⟨ok, publishes⟩ := w.publish_of_unannounced announced
    refine ⟨_, publishes.shows, fun granted _ => ?_⟩
    rw [publishes.engine]
    unfold Engine.Displays
    dsimp only [Engine.published]
    rw [← w.caption?_isSome]
    cases told : w.caption? with
    | none => simp
    | some content =>
      have granted : ok = true := granted (content, ok) (by simp [told])
      simp [granted]

theorem turn_displays (w : World σ L) (m : Message) (announced : w.engine.Announced)
    (displays : w.engine.Displays) :
    ∃ shows, (w.turn m).front.shows = shows ++ w.front.shows ∧
      ((∀ shown ∈ shows, shown.2 = true) → (w.turn m).engine.Displays) := by
  let noted := w.log .engine .trace "Engine command" [("command", m.name)]
  obtain ⟨early, first, prepares⟩ := noted.handle_prepares m announced displays
  obtain ⟨late, second, done⟩ := (noted.handle m).publish_displays
  refine ⟨late ++ early, ?_, fun granted => ?_⟩
  · rw [List.append_assoc]
    exact second.trans (congrArg (late ++ ·) first)
  · obtain ⟨grantedLate, grantedEarly⟩ := List.forall_mem_append.mp granted
    exact done grantedLate (prepares grantedEarly)

end World

namespace Core

variable {σ L : Type} [Surroundings σ L] {c : Core σ L}

theorem Sound.act_withdraws (sound : c.Sound) (withdraws : c.world.engine.Withdraws)
    (action : Action σ L) : (c.act action).world.engine.Withdraws := by
  have reveals := act_reveals sound.settled action
  generalize c.act action = c' at reveals ⊢
  cases reveals with
  | nothing _ engine =>
    rw [engine]
    exact withdraws
  | @turn m _ next other world =>
    rw [world]
    exact World.publish_withdraws _ (World.handle_withdraws _ m sound.announced withdraws)
  | ending _ _ before _ engine =>
    rw [engine]
    apply World.publish_withdraws
    rw [World.reset_engine, before]
    exact withdraws.retains (.cleared _)

theorem Sound.withdraws_after (sound : c.Sound) (withdraws : c.world.engine.Withdraws)
    (actions : List (Action σ L)) : (c.after actions).world.engine.Withdraws := by
  induction actions generalizing c with
  | nil => exact withdraws
  | cons action rest ih => exact ih (sound.act action) (sound.act_withdraws withdraws action)

theorem launch_withdraws (blank : c.Blank) (interval : Duration) (actions : List (Action σ L)) :
    ((c.launch interval).after actions).world.engine.Withdraws := by
  refine (Sound.launch blank interval).withdraws_after ?_ actions
  rw [(launch_world blank interval).1]
  simp [Engine.Withdraws]

/-- An action leaves the display right, if the host shows what it is asked to show. -/
theorem Sound.act_displays (sound : c.Sound) (displays : c.world.engine.Displays)
    (action : Action σ L)
    (granted : ∀ shown ∈ (c.story [action]).filterMap Effect.show?, shown.2 = true) :
    (c.act action).world.engine.Displays := by
  have shown : ∀ {shows}, (c.act action).world.front.shows = shows ++ c.world.front.shows →
      ∀ shown ∈ shows, shown.2 = true := by
    intro shows added shown mem
    rw [sound.filterMap_story action Effect.show? added] at granted
    exact granted shown (List.mem_reverse.mpr mem)
  have reveals := act_reveals sound.settled action
  generalize c.act action = c' at reveals shown ⊢
  cases reveals with
  | nothing _ engine =>
    rw [engine]
    exact displays
  | @turn m _ next other world =>
    rw [world] at shown ⊢
    obtain ⟨shows, added, done⟩ := c.world.turn_displays m sound.announced displays
    exact done (shown added)
  | @ending _ w _ _ _ before front engine reveals =>
    obtain ⟨shows, added, done⟩ := w.reset.publish_displays
    rw [World.reset_front, front] at added
    rw [reveals] at shown
    rw [engine]
    refine done (shown added) ?_
    rw [World.reset_engine, before]
    exact .retains displays (.cleared _)

theorem Sound.displays_after (sound : c.Sound) (displays : c.world.engine.Displays)
    (actions : List (Action σ L))
    (granted : ∀ shown ∈ (c.story actions).filterMap Effect.show?, shown.2 = true) :
    (c.after actions).world.engine.Displays := by
  induction actions generalizing c with
  | nil => exact displays
  | cons action rest ih =>
    rw [sound.story_cons, List.filterMap_append] at granted
    obtain ⟨now, later⟩ := List.forall_mem_append.mp granted
    exact ih (sound.act action) (sound.act_displays displays action now) later

omit [Surroundings σ L] in
/-- A host that refuses nothing shows what it is asked to show. -/
theorem granted_iff_unrefused {effects : List (Effect L)} :
    (∀ shown ∈ effects.filterMap Effect.show?, shown.2 = true) ↔
    ∀ id content failure, .called (.showNotification id content) (.error failure) ∉ effects := by
  constructor
  · intro granted id content failure mem
    have refused := granted _ (List.mem_filterMap.mpr ⟨_, mem, rfl⟩)
    contradiction
  · intro unrefused shown shows
    obtain ⟨effect, mem, shows⟩ := List.mem_filterMap.mp shows
    unfold Effect.show? at shows
    split at shows
    case h_1 id content result =>
      cases shows
      cases result with
      | ok => rfl
      | error failure => exact absurd mem (unrefused id content failure)
    case h_2 => contradiction

/-- The notification and the wake lock follow the app to the background and back: whatever the host
refuses, they are there only in the background and while playback is not stopped; and unless the host
refused to show it, the notification is always there then. -/
theorem notification_follows_background (blank : c.Blank) (interval : Duration)
    (actions : List (Action σ L)) :
    let launched := c.launch interval
    let e := (launched.after actions).world.engine
    (e.shown ∨ e.holdsWakeLock → e.backgrounded ∧ e.mode.reported ≠ .stopped) ∧
    ((∀ id content failure, .called (.showNotification id content) (.error failure) ∉
        launched.story actions) →
      (e.shown ↔ e.backgrounded ∧ e.mode.reported ≠ .stopped)) := by
  intro launched e
  have sound := Sound.launch blank interval
  have start : launched.world.engine = { backgrounded := c.signal.background } :=
    (launch_world blank interval).1
  have known : e.lastState = e.mode.reported := (sound.after actions).announced.state
  rw [← known]
  refine ⟨sound.withdraws_after ?_ actions, fun unrefused =>
    sound.displays_after ?_ actions (granted_iff_unrefused.mpr unrefused)⟩
  · rw [start]
    simp [Engine.Withdraws]
  · rw [start]
    simp [Engine.Displays]

/-- A song plays when the app leaves, and the encore follows it in the background. -/
def departed : List (Action Obliging Empty) :=
  [.command (.choose .song), .take, .ask, .answer 1 (.ok ⟨⟨1⟩, none⟩), .take,
    .signal .background, .signal (.expire 1), .take, .command (.choose .encore), .take]

/-- The notification is shown while the encore is being prepared. -/
theorem notification_follows_background_departed :
    let e := ((obliged.launch .zero).after departed).world.engine
    e.backgrounded = true ∧ e.mode.reported = .playing ∧ e.holdsWakeLock = true ∧
    e.shown = true := by
  have unrefused : ∀ id content failure,
      .called (.showNotification id content) (.error failure) ∉
        (obliged.launch .zero).story departed :=
    granted_iff_unrefused.mp (by decide +kernel)
  have away : ((obliged.launch .zero).after departed).world.engine.backgrounded = true := by
    decide +kernel
  have reported : ((obliged.launch .zero).after departed).world.engine.mode.reported =
    .playing := by decide +kernel
  refine ⟨away, reported, by decide +kernel, ?_⟩
  exact ((notification_follows_background obliged_blank .zero departed).2 unrefused).mpr
    ⟨away, by rw [reported]; nofun⟩

end Core
end MediaPlayback
