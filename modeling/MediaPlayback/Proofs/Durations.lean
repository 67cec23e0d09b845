import MediaPlayback.Proofs.Catalog
import MediaPlayback.Proofs.Place
import MediaPlayback.Proofs.View

/-! The two durations that others see. The snapshot tells what is known of the cursor's entry, and a
position is reported with what is known of the active item. They agree, whatever becomes known, as
long as the active item is in place, so a run keeps them together exactly if no message of it leaves
the cursor on another item for the same file. -/

namespace MediaPlayback

theorem Bulletin.event_ne_position (b : Bulletin) (path : String) (position duration : UInt64) :
    b.event ≠ .positionChanged path position duration := by
  cases b <;> exact nofun

namespace World

variable {σ L : Type}

/-- Whatever is known about items, the snapshot tells the duration of the active one. -/
def DurationsAgree (w : World σ L) : Prop :=
  ∀ active, w.engine.mode.item? = some active →
    ∀ catalog, { w with catalog }.snapshot.duration = catalog.duration? active

theorem durationsAgree_iff {w : World σ L} (track : w.engine.OnTrack) :
    w.DurationsAgree ↔ w.engine.InPlace := by
  constructor
  · intro agree active now
    obtain ⟨entry, current, _⟩ := track.current active now
    refine ⟨entry, current, Decidable.byContradiction fun differs => ?_⟩
    -- If only the active item's duration is known, the entry's is not.
    have told := agree active now { w.catalog with durations := [(active.ref, .zero)] }
    have unknown : List.lookup entry.ref [(active.ref, Duration.zero)] = none := by
      rw [List.lookup_cons, beq_false_of_ne differs]
      rfl
    simp [snapshot, current, Catalog.duration?, unknown] at told
  · intro place active now catalog
    obtain ⟨entry, current, same⟩ := place active now
    simp [snapshot, current, Catalog.duration?, same]

variable [Surroundings σ L]

/-- What is published is the track or the state, and no position. -/
theorem publish_positions (w : World σ L) : ∃ reports,
    w.publish.front.news = reports ++ w.front.news ∧
    ∀ path position duration, .positionChanged path position duration ∉ reports := by
  have bulletin : ∀ (o : Option Bulletin) path position duration,
      .positionChanged path position duration ∉ (o.map Bulletin.event).toList := by
    intro o path position duration mem
    obtain ⟨b, _, same⟩ := Option.map_eq_some_iff.mp (Option.mem_toList.mp mem)
    exact b.event_ne_position path position duration same
  refine ⟨(w.stateBulletin?.map Bulletin.event).toList ++
    (w.trackBulletin?.map Bulletin.event).toList, ?_, fun path position duration mem => ?_⟩
  · rw [publish_news, List.append_assoc]
  · rcases List.mem_append.mp mem with state | track
    · exact bulletin _ path position duration state
    · exact bulletin _ path position duration track

/-- A position that is reported in a turn is the active item's, with what is known of its
duration. -/
theorem turn_positions (w : World σ L) (m : Message) : ∃ reports,
    (w.turn m).front.news = reports ++ w.front.news ∧
    ∀ path position duration, .positionChanged path position duration ∈ reports →
      ∃ active session, w.engine.mode = .playing active session ∧ path = active.path.text ∧
        duration = (w.catalog.duration? active).elim 0 (·.millis64) := by
  let noted := w.log .engine .trace "Engine command" [("command", m.name)]
  obtain ⟨report, news, told⟩ : ∃ report : Option PlaybackEvent,
      (noted.handle m).front.news = report.toList ++ w.front.news ∧
      ∀ event ∈ report, ∃ active session position, w.engine.mode = .playing active session ∧
        event = .positionChanged active.path.text position
          ((w.catalog.duration? active).elim 0 (·.millis64)) := by
    by_cases tick : m = .tick
    · subst tick
      obtain ⟨report, front, told⟩ := noted.onTick_report
      exact ⟨report, congrArg (·.news) front, told⟩
    · refine ⟨none, ?_, nofun⟩
      by_cases declared : ∃ event, m = .lifecycle event
      · obtain ⟨event, rfl⟩ := declared
        exact (noted.onLifecycle_quiet event).1
      · exact congrArg (·.news) (noted.handle_front tick fun event same => declared ⟨event, same⟩)
  obtain ⟨published, whole, unmoved⟩ := (noted.handle m).publish_positions
  refine ⟨published ++ report.toList, ?_, fun path position duration mem => ?_⟩
  · rw [List.append_assoc, ← news]
    exact whole
  · rcases List.mem_append.mp mem with mem | mem
    · exact absurd mem (unmoved path position duration)
    · obtain ⟨active, session, at_, playing, same⟩ := told _ (Option.mem_toList.mp mem)
      cases same
      exact ⟨active, session, playing, rfl, rfl⟩

end World

namespace Core

variable {σ L : Type} [Surroundings σ L] {c : Core σ L}

/-- The message that the engine takes, if it leaves the cursor on another item than the active one. -/
def displacing (c : Core σ L) (action : Action σ L) : List Message :=
  (c.takes action).filter fun m => c.world.engine.Displaces c.world.entropy m

/-- The active item is in place after an action exactly if no message displaces it. -/
theorem Sound.inPlace_act (sound : c.Sound) (track : c.world.engine.OnTrack) (action : Action σ L)
    (place : c.world.engine.InPlace) :
    (c.act action).world.engine.InPlace ↔ c.displacing action = [] := by
  simp only [displacing, List.filter_eq_nil_iff, decide_eq_true_eq]
  -- A message may draw an order, so what it makes of the world counts, and not only of the engine.
  by_cases taken : ∃ m, action = .take ∧ c.next? = some m ∧ m ≠ .shutdown
  case pos =>
    obtain ⟨m, rfl, next, other⟩ := taken
    let noted := c.world.log .engine .trace "Engine command" [("command", m.name)]
    obtain ⟨_, _, world⟩ := act_take next other
    obtain ⟨shown, published⟩ := (noted.handle m).publish_engine
    have turned : (c.act .take).world.engine = (noted.handle m).engine.published shown := by
      rw [world]
      exact published
    have only : (∀ m ∈ c.takes .take, ¬ c.world.engine.Displaces c.world.entropy m) ↔
        ¬ c.world.engine.Displaces c.world.entropy m := by
      simp [takes, next]
    rw [turned, only]
    refine noted.handle_inPlace m track place ?_
    rintro id item result active request rfl preparing current
    exact sound.answers_active (due_of_next next) preparing current
  case neg =>
    have ends : ∀ {m}, action = .take → c.next? = some m → m = .shutdown := fun take next =>
      Classical.byContradiction fun other => taken ⟨_, take, next, other⟩
    refine iff_of_true ?_ ?_
    · rcases act_engine sound.settled action with
        ⟨_, stays⟩ | ⟨m, e', shown, take, next, handles, turned⟩ | ⟨shown, ended⟩
      · rw [stays]
        exact place
      · cases ends take next
        rw [turned]
        exact handles.inPlace rfl track place fun same => by cases same
      · rw [ended]
        exact .of_idle rfl
    · intro m mem
      cases action with
      | take =>
        cases ends rfl (Option.mem_toList.mp mem)
        exact id
      | _ => contradiction

/-- A position that an action reports is that of the item that plays, with what is known of the item's
duration. -/
def ReportsPlaying (c : Core σ L) (action : Action σ L) : Prop :=
  ∀ path position duration, .positionChanged path position duration ∈ c.reports [action] →
    ∃ active session, c.world.engine.mode = .playing active session ∧ path = active.path.text ∧
      duration = (c.world.catalog.duration? active).elim 0 (·.millis64)

theorem Sound.reportsPlaying (sound : c.Sound) (action : Action σ L) : c.ReportsPlaying action := by
  intro path position duration told
  have found : ∀ reports, (c.act action).world.front.news = reports ++ c.world.front.news →
      .positionChanged path position duration ∈ reports := by
    intro reports news
    rw [reports_eq, sound.filterMap_story action Effect.news? news] at told
    exact List.mem_reverse.mp told
  have reveals := act_reveals sound.settled action
  generalize c.act action = c' at reveals found
  cases reveals with
  | nothing _ _ hides =>
    have news : c'.world.coverage.news = c.world.coverage.news := by rw [hides]
    have none := found [] news
    contradiction
  | @turn m _ next other world =>
    obtain ⟨reports, news, positions⟩ := c.world.turn_positions m
    refine positions path position duration (found reports ?_)
    rw [world]
    exact news
  | @ending _ w _ _ publishing before front engine reveals =>
    obtain ⟨reports, news, unmoved⟩ := w.reset.publish_positions
    refine absurd (found reports ?_) (unmoved path position duration)
    rw [reveals, news, World.reset_front, front]

/-- Once the engine learns a duration that was not known yet, it stays known. -/
theorem duration_known (c : Core σ L) {item : Item} {d : Duration}
    (learns : c.learns? .take = some (item, d)) (new : c.world.catalog.duration? item = none)
    (later : List (Action σ L)) (remembers : (c.act .take).Remembers later) :
    ((c.act .take).after later).world.catalog.duration? item = some d := by
  refine (c.act .take).after_extends later remembers item d ?_
  rw [take_catalog, learns, Option.elim_some, Catalog.duration?_recordDuration, if_pos rfl, new]
  rfl

/-- The durations that others see agree unless an item is displaced. In a run the snapshot tells,
whatever is known about items, the duration of the active item in every state exactly if no message
leaves the cursor on another item than the active one. The positions that are reported are always those
of the item that plays, with what is known of its duration. And what the engine learns of an item's
duration from a prepare stays known, so that if no item is ever displaced, the snapshot tells it
whenever the item is active. -/
theorem durations_agree_unless_displaced (blank : c.Blank) (interval : Duration)
    (actions : List (Action σ L)) :
    let run := c.launch interval
    ((∀ initial, initial <+: actions → (run.after initial).world.DurationsAgree) ↔
      along displacing run actions = []) ∧
    (∀ earlier action later, actions = earlier ++ action :: later →
      (run.after earlier).ReportsPlaying action) ∧
    ∀ earlier later item d, actions = earlier ++ .take :: later →
      (run.after earlier).learns? .take = some (item, d) →
      (run.after earlier).world.catalog.duration? item = none →
      ((run.after earlier).act .take).Remembers later →
      (run.after actions).world.catalog.duration? item = some d ∧
      (along displacing run actions = [] → ∀ active,
        (run.after actions).world.engine.mode.item? = some active → active.ref = item.ref →
        (run.after actions).world.snapshot.duration = some d) := by
  intro run
  have sound : run.Sound := Sound.launch blank interval
  have track (initial : List (Action σ L)) : (run.after initial).world.engine.OnTrack :=
    sound.onTrack_after (launch_onTrack blank interval) initial
  have start : run.world.DurationsAgree := by
    have idle : run.world.engine.mode = .idle :=
      congrArg Engine.mode (launch_world blank interval).1
    exact (World.durationsAgree_iff (track [])).mpr (.of_idle idle)
  have agree : (∀ initial, initial <+: actions → (run.after initial).world.DurationsAgree) ↔
      along displacing run actions = [] := by
    have step : ∀ earlier action later, actions = earlier ++ action :: later →
        (run.after earlier).world.DurationsAgree →
        ((run.after (earlier ++ [action])).world.DurationsAgree ↔
          ¬ (run.after earlier).displacing action ≠ []) := by
      intro earlier action _ _ before
      rw [World.durationsAgree_iff (track _), after_append, Classical.not_not]
      exact (sound.after earlier).inPlace_act (track earlier) action
        ((World.durationsAgree_iff (track earlier)).mp before)
    simpa only [along_eq_nil_iff, ne_eq, Classical.not_not] using forall_prefix_iff start step
  refine ⟨agree, fun earlier action _ _ => (sound.after earlier).reportsPlaying action, ?_⟩
  rintro earlier later item d split learns new remembers
  have known : (run.after actions).world.catalog.duration? item = some d := by
    rw [split, after_append]
    exact duration_known (run.after earlier) learns new later remembers
  refine ⟨known, fun undisplaced active now same => ?_⟩
  have told : (run.after actions).world.snapshot.duration =
      (run.after actions).world.catalog.duration? active :=
    agree.mpr undisplaced actions List.prefix_rfl active now (run.after actions).world.catalog
  rw [told, ← known, Catalog.duration?, same, Catalog.duration?]

/-- The song is chosen, and its prepare tells that it takes half a minute. -/
def timed : List (Action Obliging Empty) :=
  [.command (.choose .song), .take, .ask, .answer 1 (.ok ⟨⟨1⟩, some (.ofSeconds 30)⟩), .take]

/-- While the song plays, a playlist is set that holds another item for its file. -/
def restocked : List (Action Obliging Empty) :=
  timed ++ [.command (.setPlaylist (.collection "Again" [{ Item.song with ref := 2 }])), .take]

/-- The snapshot tells how long the song takes, until the playlist displaces it. -/
theorem durations_agree_unless_displaced_restocked :
    let run := obliged.launch .zero
    (run.after timed).world.snapshot.duration = some (.ofSeconds 30) ∧
    along displacing run restocked ≠ [] := by
  obtain ⟨_, _, learned⟩ := durations_agree_unless_displaced obliged_blank .zero timed
  obtain ⟨agree, _, _⟩ := durations_agree_unless_displaced obliged_blank .zero restocked
  have undisplaced : along displacing (obliged.launch .zero) timed = [] := by decide +kernel
  constructor
  · have learns : ((obliged.launch .zero).after (timed.take 4)).learns? .take =
        some (.song, .ofSeconds 30) := by decide +kernel
    have new : ((obliged.launch .zero).after (timed.take 4)).world.catalog.duration? .song =
        none := by decide +kernel
    obtain ⟨_, told⟩ := learned (timed.take 4) [] .song (.ofSeconds 30) rfl learns new
      (by simp [Remembers])
    exact told undisplaced .song rfl rfl
  · intro never
    have told := agree.mpr never restocked List.prefix_rfl .song rfl
      ((obliged.launch .zero).after restocked).world.catalog
    have unknown : ((obliged.launch .zero).after restocked).world.snapshot.duration = none := rfl
    have known : ((obliged.launch .zero).after restocked).world.catalog.duration? .song =
      some (.ofSeconds 30) := by decide +kernel
    exact absurd (unknown.symm.trans (told.trans known)) nofun

/-- What the snapshot tells may differ from what is known of the item that plays. -/
theorem exists_durations_differ : ¬ ∀ (c : Core Obliging Empty), c.Blank →
    ∀ (interval : Duration) (actions : List (Action Obliging Empty)) (active : Item)
      (session : SessionId),
    let w := ((c.launch interval).after actions).world
    w.engine.mode = .playing active session → w.snapshot.duration = w.catalog.duration? active := by
  intro always
  have told := always obliged obliged_blank .zero restocked .song ⟨1⟩ rfl
  revert told
  decide +kernel

end Core
end MediaPlayback
