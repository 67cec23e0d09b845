import MediaPlayback.Proofs.Event.Subscriber
import MediaPlayback.Proofs.Outlook
import MediaPlayback.Proofs.Stopped
import MediaPlayback.Proofs.Track

/-! What observers make of the reports. A subscriber remembers the track and the state that were
reported last; every report fits to what was reported before it, and after every turn what the
subscriber remembers is how things are. A listener is told the same. -/

namespace MediaPlayback

theorem Item.sameOption_iff (a b : Option Item) :
    SameOption a b ↔ Option.Rel Path.Same (a.map (·.path)) (b.map (·.path)) := by
  constructor
  · intro same
    cases a <;> cases b <;> first | exact .none | exact .some same | contradiction
  · intro same
    cases a <;> cases b <;> cases same <;> trivial

/-- What an observer knows: the track and the state that were reported last. -/
structure View where
  track : Option Path := none
  state : PlaybackState := .stopped
deriving DecidableEq

namespace View

def see (v : View) : PlaybackEvent → View
  | .trackChanged path _ _ => { v with track := path.map Path.mk }
  | .stateChanged status _ => { v with state := status }
  | _ => v

/-- What an observer knows after some reports. -/
def after (reports : List PlaybackEvent) : View := reports.foldl see {}

/-- Whether a path is that of the track. -/
def Shows (v : View) (path : Option String) : Prop :=
  ∃ text track, path = some text ∧ v.track = some track ∧ Path.Same ⟨text⟩ track

/-- Whether a report fits to what was reported before: a change is one, a state comes with the track
unless playback stopped, and a position is one in the track that is playing. -/
def Fits (v : View) : PlaybackEvent → Prop
  | .trackChanged path _ _ => ¬ Option.Rel Path.Same (path.map Path.mk) v.track
  | .stateChanged status path =>
    status ≠ v.state ∧ if status = .stopped then path = none else v.Shows path
  | .positionChanged path _ _ => v.state = .playing ∧ v.Shows (some path)
  | _ => True

/-- Whether every report fits to what was reported before it. -/
def FitAll : View → List PlaybackEvent → Prop
  | _, [] => True
  | v, report :: rest => v.Fits report ∧ (v.see report).FitAll rest

theorem fitAll_append {v : View} {first second : List PlaybackEvent} :
    v.FitAll (first ++ second) ↔ v.FitAll first ∧ (first.foldl see v).FitAll second := by
  induction first generalizing v with
  | nil => simp [FitAll]
  | cons report rest ih => exact (and_congr_right fun _ => ih).trans and_assoc.symm

theorem FitAll.fits {v : View} {reports : List PlaybackEvent} (fit : v.FitAll reports)
    {before later : List PlaybackEvent} {report : PlaybackEvent}
    (split : reports = before ++ report :: later) : (before.foldl see v).Fits report := by
  rw [split] at fit
  exact (fitAll_append.mp fit).2.1

end View

namespace Engine

/-- What an observer knows once all is published. -/
def view (e : Engine) : View := ⟨e.lastItem.map (·.path), e.lastState⟩

theorem view_congr {e e' : Engine} (lastItem : e'.lastItem = e.lastItem)
    (lastState : e'.lastState = e.lastState) : e'.view = e.view := by
  rw [view, lastItem, lastState, view]

/-- An observer that knows of the current item knows of what is active. -/
theorem OnTrack.shows {e : Engine} {item : Item} (track : e.OnTrack)
    (active : e.mode.item? = some item) {known : Option Item}
    (same : Item.SameOption e.cursor.currentItem? known) (state : PlaybackState) :
    View.Shows ⟨known.map (·.path), state⟩ (some item.path.text) := by
  obtain ⟨current, there, on⟩ := track.current item active
  rw [there] at same
  cases known with
  | none => contradiction
  | some last => exact ⟨item.path.text, last.path, rfl, rfl, on.symm.trans same⟩

/-- An engine that stops does not wait for anything. -/
def Quits (e e' : Engine) : Prop :=
  e.mode.reported ≠ .stopped → e'.mode.reported = .stopped → e'.mode = .idle

variable {e e' : Engine} {item : Item} {session : SessionId}

theorem Quits.of_idle (idle : e'.mode = .idle) : e.Quits e' := fun _ _ => idle

theorem Quits.of_active (active : e'.mode.reported ≠ .stopped) : e.Quits e' :=
  fun _ stopped => absurd stopped active

theorem Quits.of_reported (same : e'.mode.reported = .stopped → e.mode.reported = .stopped) :
    e.Quits e' := fun active stopped => absurd (same stopped) active

theorem Quits.started (autoplay : Bool) (seekTo : Option Duration) :
    e.Quits (e.started item autoplay seekTo) :=
  .of_reported (e.startRequest_reported autoplay seekTo).mp

theorem Quits.awaiting {request request' : PrepareRequest}
    (preparing : e.mode = .preparing item request)
    (same : request'.reported = .stopped ↔ request.reported = .stopped)
    (mode : e'.mode = .preparing item request') : e.Quits e' := by
  refine .of_reported fun stopped => ?_
  rw [preparing]
  rw [mode] at stopped
  exact same.mp stopped

theorem Quits.navigated (e : Engine) (ahead : Bool) : e.Quits (e.navigated ahead) := by
  unfold Engine.navigated
  dsimp only
  split
  case isTrue idle => exact .of_idle idle
  case isFalse =>
    split
    · exact .of_reported (startRequest_reported _ true none).mp
    · exact .of_idle rfl

theorem Begins.quits (begins : e.Begins item session e') (before : Engine) : before.Quits e' := by
  cases begins with
  | denied => exact .of_idle rfl
  | played => exact .of_active nofun
  | failed => exact .of_idle rfl

theorem Resumes.quits (resumes : e.Resumes item session e') (before : Engine) :
    before.Quits e' := by
  cases resumes with
  | denied => exact .of_active nofun
  | played => exact .of_active nofun
  | failed => exact .of_idle rfl

theorem Pauses.quits (pauses : e.Pauses e') : e.Quits e' := by
  cases pauses with
  | paused => exact .of_active nofun
  | failed => exact .of_idle rfl
  | held preparing => exact .awaiting preparing (PrepareRequest.hold_reported _) rfl
  | kept => exact .of_reported id

theorem Plays.quits (plays : e.Plays e') : e.Quits e' := by
  cases plays with
  | resumed _ resumes => exact resumes.quits e
  | awaited preparing => exact .awaiting preparing (PrepareRequest.resume_reported _) rfl
  | started => exact .started true none
  | nothing | playing => exact .of_reported id

/-- What replaces a live item goes on reporting that playback is not stopped. -/
theorem Handles.quits {m : Message} (handles : e.Handles m e') : e.Quits e' := by
  cases handles with
  | play plays | togglePlay _ plays => exact plays.quits
  | @playItemInside _ index =>
    obtain ⟨cursor, pointed⟩ := e.exists_pointed index
    rw [pointed]
    exact .of_reported (startRequest_reported _ true none).mp
  | playItemOutside => exact .of_reported (startRequest_reported _ true none).mp
  | pause pauses | togglePause _ pauses => exact pauses.quits
  | forward => exact .navigated e true
  | backward => exact .navigated e false
  | advanced => exact .navigated e true
  | seekAwaited preparing =>
    refine .of_reported fun stopped => ?_
    rw [preparing]
    exact stopped
  | seekStarted => exact .started false _
  | reselected _ _ resumes => exact resumes.quits e
  | reselectedAwaited preparing =>
    exact .awaiting preparing (PrepareRequest.resume_reported _) rfl
  | @chosen item playlist words =>
    obtain ⟨cursor, pointed⟩ := (e.withPlaylist playlist words).exists_pointedAt item
    rw [pointed]
    exact .of_reported (startRequest_reported _ true none).mp
  | @setPlaylistAround playlist _ index words =>
    obtain ⟨cursor, pointed⟩ := (e.withPlaylist playlist words).exists_pointed index
    rw [pointed]
    exact .of_reported id
  | indexStarted => exact .of_reported (startRequest_reported _ _ none).mp
  | preparedHeld => exact .of_active nofun
  | preparedBegun _ _ _ begins => exact begins.quits e
  | replayed => exact .of_active nofun
  | recreated => exact .started true none
  | lostPlaying _ pauses | lostTransientPlaying _ pauses => exact pauses.quits
  | gainedPaused _ _ resumes => exact resumes.quits e
  | reset | setPlaylistWithout | preparedFailed | finished => exact .of_idle rfl
  | seekLive | seekNothing | setRepeatMode | setShuffle | reselectedPlaying | notChosen
  | setPlaylist | indexOutside | indexOnly | snapshot | progress | preparedLate | outputStale
  | outputFailed | lost | lostTransient | gained | background | foreground | tick | shutdown =>
    exact .of_reported id

end Engine

/-- A change of the track or the state. -/
inductive Change where
  | track (path : Option String)
  | state (status : PlaybackState)
deriving DecidableEq

def PlaybackEvent.change? : PlaybackEvent → Option Change
  | .trackChanged path _ _ => some (.track path)
  | .stateChanged status _ => some (.state status)
  | _ => none

def Notice.change? : Notice → Option Change
  | .trackChanged item => some (.track (item.map (·.path.text)))
  | .stateChanged status => some (.state status)
  | _ => none

theorem Bulletin.change_notice (b : Bulletin) : b.notice.change? = b.event.change? := by
  cases b <;> rfl

/-- The change that a listener is told of. -/
def ListenerId.hears? (id : ListenerId) (told : ListenerId × Notice) : Option Change :=
  if told.1 = id then told.2.change? else none

/-- In a round of telling, a listener that is registered once hears of the change once. -/
theorem Bulletin.round_hears {L : Type} (b : Bulletin) {r : Registry L} {id : ListenerId}
    {listener : L} (there : r.entries.filter (·.1 = id) = [(id, listener)]) :
    (b.round r).filterMap id.hears? = b.event.change?.toList := by
  have heard : (b.round r).filterMap id.hears? =
      (r.entries.filter (·.1 = id)).filterMap fun _ => b.event.change? := by
    rw [Bulletin.round, List.filterMap_map, ← List.filterMap_eq_filter, List.filterMap_filterMap]
    congr 1
    funext entry
    by_cases same : entry.1 = id <;>
      simp [ListenerId.hears?, same, b.change_notice, Option.guard]
  rw [heard, there]
  cases b.event.change? <;> rfl

/-- What an engine lets others know in an action: a position, and then what is new. -/
structure Broadcast where
  position : Option PlaybackEvent := none
  track : Option Bulletin := none
  state : Option Bulletin := none

namespace Broadcast

def reports (b : Broadcast) : List PlaybackEvent :=
  b.position.toList ++ ((b.track.map Bulletin.event).toList ++ (b.state.map Bulletin.event).toList)

/-- The changes that are reported, in order. -/
def changes (b : Broadcast) : List Change :=
  (b.track.bind (·.event.change?)).toList ++ (b.state.bind (·.event.change?)).toList

theorem reports_change (b : Broadcast) (still : ∀ event ∈ b.position, event.change? = none) :
    b.reports.filterMap PlaybackEvent.change? = b.changes := by
  have none_there : b.position.toList.filterMap PlaybackEvent.change? = [] :=
    List.filterMap_eq_nil_iff.mpr fun event mem => still event (Option.mem_toList.mp mem)
  have one : ∀ o : Option Bulletin, (o.map Bulletin.event).toList.filterMap PlaybackEvent.change? =
      (o.bind (·.event.change?)).toList := by
    intro o
    cases o with
    | none => rfl
    | some bulletin => cases bulletin <;> rfl
  rw [reports, List.filterMap_append, List.filterMap_append, none_there, one, one]
  rfl

end Broadcast

namespace World

variable {σ L : Type} {w : World σ L}

/-- The bulletin on the track fits, and it tells what the current item is. -/
theorem fits_track (w : World σ L) :
    w.engine.view.FitAll (w.trackBulletin?.map Bulletin.event).toList ∧
    (w.trackBulletin?.map Bulletin.event).toList.foldl View.see w.engine.view =
      ⟨w.engine.announcedItem.map (·.path), w.engine.lastState⟩ := by
  unfold trackBulletin? Engine.announcedItem
  dsimp only
  split
  case isTrue => exact ⟨trivial, rfl⟩
  case isFalse changed =>
    have spelled : ((w.engine.cursor.currentItem?.map (·.path.text)).map Path.mk) =
        w.engine.cursor.currentItem?.map (·.path) := by
      cases w.engine.cursor.currentItem? <;> rfl
    refine ⟨⟨fun same => changed ?_, trivial⟩, ?_⟩
    · rw [Item.sameOption_iff, ← spelled]
      exact same
    · exact congrArg (View.mk · w.engine.lastState) spelled

/-- The bulletin on the state fits to the track, and it tells what the state is. -/
theorem fits_state (track : w.engine.OnTrack)
    (quits : w.engine.lastState ≠ .stopped → w.engine.mode.reported = .stopped →
      w.engine.mode = .idle) :
    let v : View := ⟨w.engine.announcedItem.map (·.path), w.engine.lastState⟩
    v.FitAll (w.stateBulletin?.map Bulletin.event).toList ∧
    (w.stateBulletin?.map Bulletin.event).toList.foldl View.see v =
      ⟨w.engine.announcedItem.map (·.path), w.engine.mode.reported⟩ := by
  intro v
  unfold stateBulletin?
  split
  case isTrue same =>
    refine ⟨trivial, ?_⟩
    rw [same]
    rfl
  case isFalse changed =>
    refine ⟨⟨⟨changed, ?_⟩, trivial⟩, rfl⟩
    split
    case isTrue stopped =>
      -- What stops waits for nothing, so that there is no item to tell of.
      have idle := quits (fun before => changed (stopped.trans before.symm)) stopped
      rw [idle]
      rfl
    case isFalse active =>
      cases playing : w.engine.mode.item? with
      | none => cases mode : w.engine.mode <;> simp_all [Mode.item?, Mode.reported]
      | some item => exact track.shows playing (w.engine.announced_published false).item _

variable [Surroundings σ L]

theorem publish_view (w : World σ L) :
    w.publish.engine.view = ⟨w.engine.announcedItem.map (·.path), w.engine.mode.reported⟩ := by
  obtain ⟨shown, engine⟩ := w.publish_engine
  rw [engine]
  rfl

/-- The registries whose listeners are told when a world publishes what changed: the second round
begins with what the first one left. -/
def rosters (w : World σ L) : List (Registry L) := [w.listeners, w.publishItem.listeners]

/-- From one world to another this was broadcast. -/
structure Broadcasts (w : World σ L) (b : Broadcast) (w' : World σ L) (rosters : List (Registry L)) :
    Prop where
  news : w'.front.news = b.reports.reverse ++ w.front.news
  fit : w.engine.view.FitAll b.reports
  view : b.reports.foldl View.see w.engine.view = w'.engine.view
  still : ∀ event ∈ b.position, event.change? = none
  order : ∃ path status, b.changes = (Option.map Change.track path).toList ++
    (Option.map Change.state status).toList
  heard : ∀ id listener, (∀ r ∈ rosters, r.entries.filter (·.1 = id) = [(id, listener)]) →
    w'.front.notices.filterMap id.hears? =
      b.changes.reverse ++ w.front.notices.filterMap id.hears?

theorem publish_heard (w : World σ L) {id : ListenerId} {listener : L}
    (there : ∀ r ∈ w.rosters, r.entries.filter (·.1 = id) = [(id, listener)]) :
    w.publish.front.notices.filterMap id.hears? =
      (Broadcast.changes { track := w.trackBulletin?, state := w.stateBulletin? }).reverse ++
        w.front.notices.filterMap id.hears? := by
  have one : ∀ (o : Option Bulletin) {r : Registry L}, r ∈ w.rosters →
      (o.toList.flatMap (·.round r)).filterMap id.hears? =
        (o.bind (·.event.change?)).toList := by
    intro o r mem
    cases o with
    | none => rfl
    | some b =>
      rw [Option.toList_some, List.flatMap_singleton, b.round_hears (there r mem)]
      rfl
  rw [publish_notices, List.filterMap_append, List.filterMap_append, List.filterMap_reverse,
    List.filterMap_reverse, one _ (by simp [rosters]), one _ (by simp [rosters]),
    Broadcast.changes, List.reverse_append, List.append_assoc]

omit [Surroundings σ L] in
theorem bulletins_order (w : World σ L) : ∃ path status,
    Broadcast.changes { track := w.trackBulletin?, state := w.stateBulletin? } =
      (Option.map Change.track path).toList ++ (Option.map Change.state status).toList := by
  have track : ∃ path, w.trackBulletin?.bind (·.event.change?) = Option.map Change.track path := by
    unfold trackBulletin?
    dsimp only
    split
    · exact ⟨none, rfl⟩
    · exact ⟨some _, rfl⟩
  have state : ∃ status, w.stateBulletin?.bind (·.event.change?) =
      Option.map Change.state status := by
    unfold stateBulletin?
    split
    · exact ⟨none, rfl⟩
    · exact ⟨some _, rfl⟩
  obtain ⟨path, track⟩ := track
  obtain ⟨status, state⟩ := state
  exact ⟨path, status, by rw [Broadcast.changes, track, state]⟩

/-- What is broadcast when changes are published after a position may have been reported. -/
theorem publish_broadcasts {w p : World σ L} (position : Option PlaybackEvent)
    (news : p.front.news = position.toList ++ w.front.news)
    (notices : p.front.notices = w.front.notices) (view : p.engine.view = w.engine.view)
    (fits : ∀ event ∈ position, w.engine.view.Fits event ∧ w.engine.view.see event = w.engine.view ∧
      event.change? = none)
    (track : p.engine.OnTrack)
    (quits : p.engine.lastState ≠ .stopped → p.engine.mode.reported = .stopped →
      p.engine.mode = .idle) :
    w.Broadcasts ⟨position, p.trackBulletin?, p.stateBulletin?⟩ p.publish p.rosters := by
  have early : w.engine.view.FitAll position.toList ∧
      position.toList.foldl View.see w.engine.view = p.engine.view := by
    rw [view]
    cases position with
    | none => exact ⟨trivial, rfl⟩
    | some event => exact ⟨⟨(fits event rfl).1, trivial⟩, (fits event rfl).2.1⟩
  obtain ⟨fitTrack, seeTrack⟩ := p.fits_track
  obtain ⟨fitState, seeState⟩ := fits_state track quits
  refine ⟨?_, ?_, ?_, fun event mem => (fits event mem).2.2, p.bulletins_order, ?_⟩
  · simp only [publish_news, news, Broadcast.reports, List.reverse_append, Core.reverse_toList,
      List.append_assoc]
  · rw [Broadcast.reports, View.fitAll_append, early.2, View.fitAll_append, seeTrack]
    exact ⟨early.1, fitTrack, fitState⟩
  · rw [Broadcast.reports, List.foldl_append, early.2, List.foldl_append, seeTrack, seeState,
      publish_view]
  · intro id listener there
    rw [p.publish_heard there, notices]
    rfl

/-- A lifecycle declaration says nothing of the track or the state. -/
theorem onLifecycle_quiet (w : World σ L) (event : LifecycleEvent) :
    (w.onLifecycle event).front.news = w.front.news ∧
    (w.onLifecycle event).front.notices = w.front.notices ∧
    (w.onLifecycle event).engine.lastItem = w.engine.lastItem ∧
    (w.onLifecycle event).engine.lastState = w.engine.lastState := by
  cases event with
  | becameForeground =>
    obtain ⟨engine, front⟩ := w.onForeground_front
    rw [engine, front]
    exact ⟨rfl, rfl, rfl, rfl⟩
  | becameBackground =>
    obtain ⟨lock, ok, engine, _, front⟩ := w.onBackground_front
    rw [engine, front]
    exact ⟨rfl, rfl, rfl, rfl⟩

theorem turn_broadcasts (w : World σ L) (m : Message) (announced : w.engine.Announced)
    (before : w.engine.OnTrack)
    (track : ((w.log .engine .trace "Engine command" [("command", m.name)]).handle m).engine.OnTrack) :
    ∃ b, w.Broadcasts b (w.turn m)
      ((w.log .engine .trace "Engine command" [("command", m.name)]).handle m).rosters := by
  let noted := w.log .engine .trace "Engine command" [("command", m.name)]
  have handles := noted.handle_engine m
  have quits : noted.engine.lastState = (noted.handle m).engine.lastState →
      (noted.handle m).engine.lastState ≠ .stopped →
      (noted.handle m).engine.mode.reported = .stopped → (noted.handle m).engine.mode = .idle := by
    intro same active
    have active : w.engine.lastState ≠ .stopped := fun stopped => active (same.symm.trans stopped)
    rw [announced.state] at active
    exact handles.quits active
  -- Before changes are published, only a tick reports anything, and only a declaration may show
  -- anything.
  by_cases tick : m = .tick
  · subst tick
    obtain ⟨report, front, position⟩ := noted.onTick_front
    have engine : (noted.handle .tick).engine = w.engine := noted.onTick_engine
    refine ⟨_, publish_broadcasts (p := noted.handle .tick) report (congrArg (·.news) front)
      (congrArg (·.notices) front) (congrArg Engine.view engine) (fun event mem => ?_) track
      (quits (congrArg Engine.lastState engine).symm)⟩
    obtain ⟨item, session, at_, duration, playing, rfl⟩ := position event mem
    have playing : w.engine.mode = .playing item session := playing
    refine ⟨⟨?_, ?_⟩, rfl, rfl⟩
    · exact announced.state.trans (by rw [playing]; rfl)
    · exact before.shows (by rw [playing]; rfl) announced.item _
  · by_cases declared : ∃ event, m = .lifecycle event
    · obtain ⟨event, rfl⟩ := declared
      obtain ⟨news, notices, lastItem, lastState⟩ := noted.onLifecycle_quiet event
      exact ⟨_, publish_broadcasts (p := noted.handle (.lifecycle event)) none news
        notices (Engine.view_congr lastItem lastState) nofun track (quits lastState.symm)⟩
    · have stays : ∀ event, m ≠ .lifecycle event := fun event same => declared ⟨event, same⟩
      have front := noted.handle_front tick stays
      have retains := handles.retains stays
      exact ⟨_, publish_broadcasts (p := noted.handle m) none
        (congrArg (·.news) front) (congrArg (·.notices) front)
        (Engine.view_congr retains.lastItem retains.lastState) nofun track
        (quits retains.lastState.symm)⟩

end World

namespace Core

variable {σ L : Type} [Surroundings σ L] {c : Core σ L}

/-- The registries whose listeners are told of what changed in an action. -/
def rosters (c : Core σ L) (action : Action σ L) : List (Registry L) :=
  (c.publishing? action).elim [] World.rosters

theorem Sound.act_broadcasts (sound : c.Sound) (track : c.world.engine.OnTrack)
    (action : Action σ L) :
    ∃ b : Broadcast, c.world.Broadcasts b (c.act action).world (c.rosters action) := by
  have reveals := act_reveals sound.settled action
  generalize c.act action = c' at reveals ⊢
  cases reveals with
  | nothing _ engine hides =>
    have news : c'.world.coverage.news = c.world.coverage.news := by rw [hides]
    have notices : c'.world.coverage.notices = c.world.coverage.notices := by rw [hides]
    refine ⟨{}, news, trivial, congrArg Engine.view engine.symm, (by simp), ⟨none, none, rfl⟩, ?_⟩
    exact fun id _ _ => congrArg (List.filterMap id.hears?) notices
  | @turn m _ next other world =>
    let noted := c.world.log .engine .trace "Engine command" [("command", m.name)]
    have rosters : c.rosters .take = (noted.handle m).rosters := by
      rw [Core.rosters, publishing?, next]
      cases m <;> first | rfl | exact absurd rfl other
    have handled : (noted.handle m).engine.OnTrack :=
      sound.onTrack_handles next track (noted.handle_engine m)
    obtain ⟨b, news, fit, view, still, order, heard⟩ :=
      c.world.turn_broadcasts m sound.announced track handled
    rw [rosters, world]
    exact ⟨b, news, fit, view, still, order, heard⟩
  | @ending _ w _ _ publishing before front engine reveals =>
    have rosters : c.rosters action = w.reset.rosters := by
      rw [Core.rosters, publishing]
      rfl
    have cleared := w.reset_engine
    obtain ⟨news, fit, view, still, order, heard⟩ := World.publish_broadcasts (w := w)
      (p := w.reset) none (congrArg (·.news) w.reset_front)
      (congrArg (·.notices) w.reset_front) (by rw [cleared]; rfl) (by simp)
      (by rw [cleared]; exact .cleared _) (by rw [cleared]; exact fun _ _ => rfl)
    rw [rosters]
    refine ⟨_, ?_, before ▸ fit, ?_, still, order, ?_⟩
    · rw [reveals, news, front]
    · rw [← before, view, engine]
    · intro id listener there
      rw [reveals, heard id listener there, front]

/-- What subscribers get in a run, in order. -/
def emitted (c : Core σ L) (actions : List (Action σ L)) : List CoreEvent :=
  (c.story actions).filterMap Effect.event?

def reports (c : Core σ L) (actions : List (Action σ L)) : List PlaybackEvent :=
  (c.emitted actions).filterMap CoreEvent.report?

/-- The changes that a listener hears of in a run. -/
def hears (c : Core σ L) (id : ListenerId) (actions : List (Action σ L)) : List Change :=
  ((c.story actions).filterMap Effect.notice?).filterMap id.hears?

theorem reports_eq (c : Core σ L) (actions : List (Action σ L)) :
    c.reports actions = (c.story actions).filterMap Effect.news? := List.filterMap_filterMap

theorem Sound.reports_cons (sound : c.Sound) (action : Action σ L) (rest : List (Action σ L)) :
    c.reports (action :: rest) = c.reports [action] ++ (c.act action).reports rest := by
  rw [reports, emitted, sound.story_cons, List.filterMap_append, List.filterMap_append]
  rfl

theorem Sound.hears_cons (sound : c.Sound) (id : ListenerId) (action : Action σ L)
    (rest : List (Action σ L)) :
    c.hears id (action :: rest) = c.hears id [action] ++ (c.act action).hears id rest := by
  rw [hears, sound.story_cons, List.filterMap_append, List.filterMap_append]
  rfl

/-- The reports of an action are those of its broadcast, and listeners hear of the changes. -/
theorem Sound.act_reports (sound : c.Sound) {action : Action σ L} {b : Broadcast}
    (broadcasts : c.world.Broadcasts b (c.act action).world (c.rosters action)) :
    c.reports [action] = b.reports ∧
    ∀ id listener, (∀ r ∈ c.rosters action, r.entries.filter (·.1 = id) = [(id, listener)]) →
      c.hears id [action] = b.changes := by
  constructor
  · rw [reports_eq, sound.filterMap_story action Effect.news? broadcasts.news, List.reverse_reverse]
  · intro id listener there
    have told : ∀ trace : List (Effect L), (trace.filterMap Effect.notice?).filterMap id.hears? =
        trace.filterMap fun effect => effect.notice?.bind id.hears? := fun _ =>
      List.filterMap_filterMap
    have heard : ((c.act action).world.trace.filterMap Effect.notice?).filterMap id.hears? =
        b.changes.reverse ++ (c.world.trace.filterMap Effect.notice?).filterMap id.hears? :=
      broadcasts.heard id listener there
    rw [told, told] at heard
    rw [hears, told, sound.filterMap_story action _ heard, List.reverse_reverse]

/-- After a run an observer knows what was published last, and every report of the run fits. -/
theorem Sound.after_view (sound : c.Sound) (track : c.world.engine.OnTrack)
    (actions : List (Action σ L)) :
    c.world.engine.view.FitAll (c.reports actions) ∧
    (c.reports actions).foldl View.see c.world.engine.view = (c.after actions).world.engine.view := by
  induction actions generalizing c with
  | nil => simp [reports, emitted, View.FitAll]
  | cons action rest ih =>
    obtain ⟨b, broadcasts⟩ := sound.act_broadcasts track action
    obtain ⟨reported, _⟩ := sound.act_reports broadcasts
    obtain ⟨fit, view⟩ := ih (sound.act action) (sound.onTrack_after track [action])
    rw [← broadcasts.view] at fit view
    rw [sound.reports_cons, reported, View.fitAll_append, List.foldl_append]
    exact ⟨⟨broadcasts.fit, fit⟩, view⟩

/-- A listener that stays registered hears of the changes that are reported. -/
theorem Sound.after_hears (sound : c.Sound) (track : c.world.engine.OnTrack)
    (actions : List (Action σ L)) {id : ListenerId} {listener : L}
    (there : ∀ r ∈ along rosters c actions,
      r.entries.filter (·.1 = id) = [(id, listener)]) :
    c.hears id actions = (c.reports actions).filterMap PlaybackEvent.change? := by
  induction actions generalizing c with
  | nil => simp [hears, reports, emitted]
  | cons action rest ih =>
    obtain ⟨now, later⟩ := List.forall_mem_append.mp there
    obtain ⟨b, broadcasts⟩ := sound.act_broadcasts track action
    obtain ⟨reported, heard⟩ := sound.act_reports broadcasts
    rw [sound.hears_cons, sound.reports_cons, List.filterMap_append, heard id listener now,
      reported, b.reports_change broadcasts.still,
      ih (sound.act action) (sound.onTrack_after track [action]) later]

/-- All observers of a run have one consistent view. A subscriber that is never told that it missed
something gets every event; what was reported last of track and state is how things are after every
action; every report fits to those before it; a change of the track is reported before a change of the
state; and a listener that stays registered hears of the same changes in the same order. -/
theorem observers_agree (blank : c.Blank) (interval : Duration) (actions : List (Action σ L)) :
    let launched := c.launch interval
    let e := (launched.after actions).world.engine
    let view := View.after (launched.reports actions)
    (∀ (bus : Bus CoreEvent) (occasions : List (Occasion CoreEvent)),
      occasions.filterMap Occasion.announced? = launched.emitted actions →
      (bus.join.after occasions).lagged = false →
      (bus.join.after occasions).read ++ (bus.join.after occasions).unread =
        launched.emitted actions) ∧
    (Option.Rel Path.Same (e.cursor.currentItem?.map (·.path)) view.track ∧
      view.state = e.mode.reported) ∧
    (∀ before report later, launched.reports actions = before ++ report :: later →
      (View.after before).Fits report) ∧
    (∀ earlier action later, actions = earlier ++ action :: later →
      ∃ path status, ((launched.after earlier).reports [action]).filterMap PlaybackEvent.change? =
        (Option.map Change.track path).toList ++ (Option.map Change.state status).toList) ∧
    ∀ id listener,
      (∀ r ∈ along rosters launched actions, r.entries.filter (·.1 = id) = [(id, listener)]) →
      launched.hears id actions =
        (launched.reports actions).filterMap PlaybackEvent.change? := by
  intro launched e view
  have sound : launched.Sound := Sound.launch blank interval
  have track : launched.world.engine.OnTrack := launch_onTrack blank interval
  have start : launched.world.engine.view = {} := by
    rw [show launched.world.engine = _ from (launch_world blank interval).1]
    rfl
  obtain ⟨fit, seen⟩ := sound.after_view track actions
  rw [start] at fit seen
  have known := (sound.after actions).announced
  refine ⟨?_, ⟨?_, ?_⟩, ?_, ?_, ?_⟩
  · intro bus occasions announced keepsUp
    rw [← announced]
    exact Subscription.read_append_unread bus occasions keepsUp
  · rw [show view = e.view from seen]
    exact (Item.sameOption_iff _ _).mp known.item
  · rw [show view = e.view from seen]
    exact known.state
  · intro before report later split
    exact fit.fits split
  · intro earlier action later split
    have sound := sound.after earlier
    obtain ⟨b, broadcasts⟩ := sound.act_broadcasts
      ((Sound.launch blank interval).onTrack_after track earlier) action
    rw [(sound.act_reports broadcasts).1, b.reports_change broadcasts.still]
    exact broadcasts.order
  · intro id listener there
    exact sound.after_hears track actions there

end Core

/-- Listeners that take no notice of anything. -/
instance : Surroundings Obliging Unit where
  answer outside call := Surroundings.answer Empty outside call
  react outside _ _ _ _ := ({}, outside)
  keepsRunning _ _ := false

namespace Core

/-- A core before its engine starts, where one listener is registered. -/
def attended : Core Obliging Unit where
  world := { outside := .host, listeners := (Registry.add {} ()).2 }
  signal := { debounce := .zero }

/-- A song plays, its position is reported, and then the encore is chosen, and an empty playlist is
set. -/
def performed : List (Action Obliging Unit) :=
  [.command (.choose .song), .take, .ask, .answer 1 (.ok ⟨⟨1⟩, none⟩), .take, .beat, .take,
    .command (.choose .encore), .take,
    .command ⟨.setPlaylist (.collection "Nothing" []), rfl⟩, .take]

/-- The listener hears of both tracks and of their end, and in the end nothing is known to play. -/
theorem observers_agree_performed :
    let launched := attended.launch (.ofSeconds 1)
    launched.hears ⟨1⟩ performed =
      [.track (some "/music/song.mp3"), .state .playing, .track (some "/music/encore.mp3"),
        .track none, .state .stopped] ∧
    (View.after (launched.reports performed)).state = .stopped ∧
    (launched.reports performed).length = 6 := by
  have blank : attended.Blank :=
    ⟨rfl, rfl, rfl, ⟨rfl, rfl⟩, fun _ mem => absurd mem List.not_mem_nil⟩
  obtain ⟨_, ⟨_, state⟩, _, _, heard⟩ := observers_agree blank (.ofSeconds 1) performed
  have stopped : ((attended.launch (.ofSeconds 1)).after performed).world.engine.mode.reported =
    .stopped := by decide +kernel
  refine ⟨?_, state.trans stopped, by decide +kernel⟩
  rw [heard ⟨1⟩ () (by decide +kernel)]
  decide +kernel

end Core
end MediaPlayback
