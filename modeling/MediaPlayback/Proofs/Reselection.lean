import MediaPlayback.Proofs.Intent
import MediaPlayback.Proofs.Playthrough
import MediaPlayback.Proofs.Reset

/-! An item of a playlist that is chosen twice in a row. Whatever the first choice led to, if the host
refuses nothing there is nothing left to do about the item: it plays, or it is being prepared to be
played, or the playlist does not hold it. That stays so while sessions come that were prepared, so the
second choice is no more than noted. -/

namespace MediaPlayback

theorem PrepareRequest.resume_resume (r : PrepareRequest) : r.resume.resume = r.resume := by
  obtain ⟨id, autoplay, seekTo, reported⟩ := r
  cases reported <;> rfl

theorem Engine.startRequest_resume (e : Engine) (seekTo : Option Duration) :
    (e.startRequest true seekTo).resume = e.startRequest true seekTo := by
  unfold startRequest
  dsimp only
  split
  case isTrue stopped =>
    unfold PrepareRequest.resume
    dsimp only
    rw [stopped]
    rfl
  case isFalse => exact PrepareRequest.resume_resume _

theorem Effect.eq_of_forPlayback {L : Type} {effect : Effect L}
    {made : (call : HostCall) × call.Result} (found : effect.forPlayback? = some made) :
    effect = .called made.1 made.2 := by
  obtain ⟨exchanged, _⟩ := Option.filter_eq_some_iff.mp found
  cases effect with
  | called call result =>
    cases exchanged
    rfl
  | _ => contradiction

/-- There is nothing left to do if an item of a playlist is chosen: the item plays, or it is being
prepared to be played, or it is not active and the playlist does not hold it. -/
inductive Mode.Heeds (item : Item) (playlist : Playlist) : Mode → Prop where
  | playing {active : Item} {session : SessionId} (same : active.Same item) :
    Heeds item playlist (.playing active session)
  | awaited {active : Item} {request : PrepareRequest} (same : active.Same item)
    (resumed : request.resume = request) : Heeds item playlist (.preparing active request)
  | absent {mode : Mode} (other : mode.item?.any (·.Same item) = false)
    (absent : playlist.contains item = false) : Heeds item playlist mode

namespace Engine

variable {e e' : Engine} {item : Item} {session : SessionId}

/-- A prepared session begins to play, if the host refuses neither focus nor to play it. -/
theorem Beginning.playing {L : Type} {begun : List ((call : HostCall) × call.Result)}
    (beginning : e.Beginning item session begun e')
    (agreed : ∀ made ∈ begun, (Effect.called made.1 made.2 : Effect L).refuses = false) :
    e'.mode = .playing item session := by
  cases beginning with
  | focused _ answer | granted _ answer =>
    cases answer with
    | ok => rfl
    | error failure => simp [Effect.refuses] at agreed
  | @refused _ answer refusal =>
    rcases answer with failure | _ | _ <;> simp_all [Effect.refuses]

theorem Beginning.item? {begun : List ((call : HostCall) × call.Result)}
    (beginning : e.Beginning item session begun e') :
    e'.mode.item? = some item ∨ e'.mode.item? = none := by
  cases beginning with
  | focused _ answer | granted _ answer =>
    cases answer with
    | ok => exact .inl rfl
    | error => exact .inr rfl
  | refused => exact .inr rfl

end Engine

namespace World

variable {σ L : Type} [Surroundings σ L]

theorem playInPlaylist_of_heeds (w : World σ L) {item : Item} {playlist : Playlist}
    (heeds : w.engine.mode.Heeds item playlist) : ∃ entries : List LogRecord,
    w.playInPlaylist item playlist = { w with trace := entries.map .logged ++ w.trace } := by
  generalize now : w.engine.mode = mode at heeds
  cases heeds with
  | playing same => exact ⟨[], by simp [playInPlaylist, now, Mode.item?, same]⟩
  | @awaited active request same resumed =>
    have kept : w.setMode (.preparing active request) = w := by rw [← now]; rfl
    exact ⟨[], by simp [playInPlaylist, now, Mode.item?, same, resumed, kept]⟩
  | absent other absent =>
    have ignored : w.playInPlaylist item playlist = w.log .engine .warn
        "Item is not part of the playlist; ignoring"
        [("playlist", playlist.name), ("file", item.fileName)] := by
      unfold playInPlaylist
      rw [now, other, absent]
      rfl
    exact ⟨[_], ignored⟩

end World

namespace Core

variable {σ L : Type} [Surroundings σ L] {c : Core σ L} {item : Item} {playlist : Playlist}

theorem Sound.disregards_chosen (sound : c.Sound) (heeds : c.world.engine.mode.Heeds item playlist)
    (next : c.next? = some (.playInPlaylist item playlist)) : c.Disregards := by
  obtain ⟨entries, noted⟩ :=
    (c.noting (.playInPlaylist item playlist)).playInPlaylist_of_heeds heeds
  exact sound.disregards next nofun entries noted

/-- Whoever chooses an item is heeded, unless the host refuses. -/
theorem Sound.heeds_chosen (sound : c.Sound) (next : c.next? = some (.playInPlaylist item playlist))
    (agreed : ∀ effect ∈ c.story [.take], effect.refuses = false) :
    (c.act .take).world.engine.mode.Heeds item playlist := by
  let noted := c.noting (.playInPlaylist item playlist)
  obtain ⟨_, _, turned⟩ := act_take next nofun
  obtain ⟨⟨shown, published⟩, dealings, _⟩ := c.world.turn_dealings (.playInPlaylist item playlist)
  have mode : (c.act .take).world.engine.mode =
      (noted.handle (.playInPlaylist item playlist)).engine.mode := by
    rw [turned]
    show (c.world.turn (.playInPlaylist item playlist)).engine.mode = _
    rw [published]
    rfl
  have granted : (noted.handle (.playInPlaylist item playlist)).dealings.refusals =
      noted.dealings.refusals := by
    have agrees := sound.agrees agreed
    rw [turned] at agrees
    exact (congrArg Dealings.refusals dealings).symm.trans agrees
  have handles := noted.handle_engine (.playInPlaylist item playlist)
  rw [mode]
  -- A resumption has several outcomes, and only the refusals tell them apart.
  generalize reached : (noted.handle (.playInPlaylist item playlist)).engine = e' at handles ⊢
  cases handles with
  | @reselected _ active _ session _ paused same =>
    have resumes : noted.handle (.playInPlaylist item playlist) = noted.resume active session := by
      simp [World.handle, World.playInPlaylist, paused, Mode.item?, same]
    rw [resumes] at granted reached
    rw [← reached, noted.resume_dealings active session granted]
    exact .playing same
  | reselectedAwaited _ same => exact .awaited same (PrepareRequest.resume_resume _)
  | reselectedPlaying playing same =>
    rw [playing]
    exact .playing same
  | chosen => exact .awaited (.refl item) (Engine.startRequest_resume _ none)
  | notChosen other absent => exact .absent other absent

/-- A session that comes makes no difference, unless the host refuses to play it. -/
theorem Sound.heeds_prepared (sound : c.Sound) (heeds : c.world.engine.mode.Heeds item playlist)
    {id : Nat} {prepared : Item} {session : PreparedSession}
    (next : c.next? = some (.prepared id prepared (.ok session)))
    (agreed : ∀ effect ∈ c.story [.take], effect.refuses = false) :
    (c.act .take).world.engine.mode.Heeds item playlist := by
  by_cases awaits : c.Awaits id
  · obtain ⟨active, awaited⟩ := awaits
    obtain ⟨request, preparing, rfl⟩ := Mode.exists_preparing awaited
    obtain rfl := sound.answers_active (due_of_next next) preparing rfl
    obtain ⟨sought, begun, e', shown, story, _, begins, holds, engine⟩ :=
      sound.takesUp preparing next
    have mode : (c.act .take).world.engine.mode = e'.mode := by rw [engine]; rfl
    rw [mode]
    rw [preparing] at heeds
    cases heeds with
    | awaited same resumed =>
      have auto : request.autoplay = true := resumed ▸ rfl
      -- What is called to play the session is part of the story, so it was not refused.
      have agreed : ∀ made ∈ begun, (Effect.called made.1 made.2 : Effect L).refuses = false := by
        intro made mem
        have mem : made ∈ (c.story [.take]).filterMap Effect.forPlayback? :=
          story ▸ List.mem_append_right _ mem
        obtain ⟨effect, told, found⟩ := List.mem_filterMap.mp mem
        exact Effect.eq_of_forPlayback found ▸ agreed effect told
      rw [(begins auto).playing agreed]
      exact .playing same
    | absent other absent =>
      refine .absent ?_ absent
      cases auto : request.autoplay with
      | true =>
        rcases (begins auto).item? with active | idle
        · rw [active]
          exact other
        · rw [idle]
          rfl
      | false =>
        rw [(holds auto).2]
        exact other
  · have ignores := sound.take_late next awaits
    rw [ignores.engine]
    exact heeds

/-- As long as the engine runs and takes nothing but sessions, there is nothing left to do. -/
theorem Sound.heeds_act (sound : c.Sound) (heeds : c.world.engine.mode.Heeds item playlist)
    {action : Action σ L} (running : (c.act action).phase = .running)
    (answered : ∀ m ∈ c.takes action, m.handed?.isSome)
    (agreed : ∀ effect ∈ c.story [action], effect.refuses = false) :
    (c.act action).world.engine.mode.Heeds item playlist := by
  have moves := act_moves sound.settled action
  generalize reached : c.act action = c' at moves running ⊢
  cases moves with
  | stays _ _ stays =>
    rw [stays.engine]
    exact heeds
  | @turns m rest _ before mailbox =>
    have next : c.next? = some m := by simp [next?, before, mailbox]
    have session : m.handed?.isSome := answered m (by simp [takes, next])
    rw [← reached]
    cases m with
    | prepared id item result =>
      cases result with
      | ok session => exact sound.heeds_prepared heeds next agreed
      | error => contradiction
    | _ => contradiction
  | ends _ _ ended => cases running.symm.trans ended
  | delivers | lapses | refuses => exact heeds

theorem Sound.heeds_after (sound : c.Sound) (heeds : c.world.engine.mode.Heeds item playlist)
    (actions : List (Action σ L)) (running : (c.after actions).phase = .running)
    (answered : ∀ m ∈ c.taken actions, m.handed?.isSome)
    (agreed : ∀ effect ∈ c.story actions, effect.refuses = false) :
    (c.after actions).world.engine.mode.Heeds item playlist := by
  induction actions generalizing c with
  | nil => exact heeds
  | cons action rest ih =>
    rw [sound.story_cons] at agreed
    obtain ⟨now, later⟩ := List.forall_mem_append.mp agreed
    obtain ⟨taken, untaken⟩ := List.forall_mem_append.mp answered
    have still : (c.act action).phase = .running := (sound.act action).running_of_after rest running
    exact ih (sound.act action) (sound.heeds_act heeds still taken now) running untaken later

/-- To choose an item of a playlist again changes nothing. If an item of a playlist is chosen and the
same choice is the next message after that, but for sessions that were prepared, and the host refuses
neither focus nor to play or to move a session, then the second choice is disregarded: at most it is
noted in the log, without any call, any news or any new order of the playlist, and the engine is as it
was. So it is whether the first choice started the item, resumed it, found it playing, or was ignored. -/
theorem reselection_disregarded (blank : c.Blank) (interval : Duration)
    (actions : List (Action σ L)) {item : Item} {playlist : Playlist}
    (next : ((c.launch interval).after actions).next? = some (.playInPlaylist item playlist))
    (between : List (Action σ L)) :
    let s := (c.launch interval).after actions
    let s' := (s.act .take).after between
    (∀ m ∈ (s.act .take).taken between, m.handed?.isSome) →
    (∀ effect ∈ s.story (.take :: between), effect.refuses = false) →
    s'.next? = some (.playInPlaylist item playlist) → s'.Disregards := by
  intro s s' answered agreed again
  have sound : s.Sound := (Sound.launch blank interval).after actions
  rw [sound.story_cons] at agreed
  obtain ⟨first, later⟩ := List.forall_mem_append.mp agreed
  have heeds := (sound.act .take).heeds_after (sound.heeds_chosen next first) between
    (mailbox_of_next again).1 answered later
  exact ((sound.act .take).after between).disregards_chosen heeds again

/-- While playlists are shuffled, the encore of one is to be played. -/
def longedFor : List (Action Obliging Empty) :=
  [.command (.setShuffle true), .take,
    .command (.playInPlaylist .encore (.collection "Mix" [.song, .encore, .song]))]

/-- The encore is prepared and played, and chosen once more. -/
def rechosen : List (Action Obliging Empty) :=
  [.ask, .answer 1 (.ok ⟨⟨1⟩, none⟩), .take,
    .command (.playInPlaylist .encore (.collection "Mix" [.song, .encore, .song]))]

/-- The encore plays on, and the playlist keeps the order that was drawn for it. -/
theorem reselection_disregarded_rechosen :
    let s := (obliged.launch .zero).after longedFor
    let s' := (s.act .take).after rechosen
    s.world.engine.mode = .idle ∧ s'.world.engine.mode = .playing .encore ⟨1⟩ ∧
    s'.world.engine.cursor.shuffled = true ∧ s'.Disregards := by
  have next : ((obliged.launch .zero).after longedFor).next? =
      some (.playInPlaylist .encore (.collection "Mix" [.song, .encore, .song])) := by rfl
  have answered : ∀ m ∈ (((obliged.launch .zero).after longedFor).act .take).taken rechosen,
      m.handed?.isSome := by decide +kernel
  have agreed : ∀ effect ∈ ((obliged.launch .zero).after longedFor).story (.take :: rechosen),
      effect.refuses = false := by decide +kernel
  have again : ((((obliged.launch .zero).after longedFor).act .take).after rechosen).next? =
      some (.playInPlaylist .encore (.collection "Mix" [.song, .encore, .song])) := by rfl
  exact ⟨by decide +kernel, by decide +kernel, by decide +kernel,
    reselection_disregarded obliged_blank .zero longedFor next rechosen answered agreed again⟩

end Core
end MediaPlayback
