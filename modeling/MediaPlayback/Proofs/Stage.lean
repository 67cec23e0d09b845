import MediaPlayback.Proofs.Outlook
import MediaPlayback.Proofs.Output
import MediaPlayback.Proofs.Track

/-! One item on its way: it is to be prepared, it is being prepared, and it is played until its session
is completed. As long as the engine is held and takes nothing but the answer that it awaits and the
completion of what is playing, and the host refuses nothing, this is all that can happen. -/

namespace MediaPlayback

/-- Whether a message is what an engine waits for to go on: the session that it awaits, or the
completion of the one that is playing. -/
def Engine.expects (e : Engine) : Message → Bool
  | .prepared id _ (.ok _) => e.mode matches .preparing .. && e.mode.awaited?.any (·.1 = id)
  | .output (.completed session) => e.mode matches .playing .. && e.mode.session? = some session
  | _ => false

def Message.completed? : Message → Option SessionId
  | .output (.completed session) => some session
  | _ => none

namespace Core

variable {σ L : Type}

/-- The prepares that the host was not asked for yet. -/
def waiting (c : Core σ L) : List Flight := c.flights.filter (!·.begun)

/-- The first prepare that waits is begun. -/
theorem begin_waiting (flights : List Flight) :
    match flights.findIdx? (!·.begun) with
    | none => flights.filter (!·.begun) = []
    | some i => ∃ flight, flights[i]? = some flight ∧ flights.filter (!·.begun) =
        flight :: (flights.set i { flight with begun := true }).filter (!·.begun) := by
  induction flights with
  | nil => rfl
  | cons first rest ih =>
    cases begun : first.begun with
    | false => simp [List.findIdx?_cons, begun]
    | true =>
      rw [List.findIdx?_cons]
      simp only [begun, Bool.not_true, Bool.false_eq_true, if_false]
      cases found : rest.findIdx? (!·.begun) with
      | none =>
        rw [found] at ih
        simpa [begun] using ih
      | some i =>
        rw [found] at ih
        simpa [begun] using ih

theorem eq_of_request {flights : List Flight} {flight other : Flight}
    (distinct : (flights.map (·.task.request)).Nodup) (mem : flight ∈ flights)
    (mem' : other ∈ flights) (same : flight.task.request = other.task.request) :
    flight = other := by
  induction flights with
  | nil => contradiction
  | cons first rest ih =>
    rw [List.map_cons, List.nodup_cons] at distinct
    obtain ⟨new, distinct⟩ := distinct
    rcases List.mem_cons.mp mem with rfl | later <;>
      rcases List.mem_cons.mp mem' with rfl | later'
    · rfl
    · exact absurd (List.mem_map.mpr ⟨other, later', same.symm⟩) new
    · exact absurd (List.mem_map.mpr ⟨flight, later, same⟩) new
    · exact ih distinct later later'

variable {c : Core σ L}

theorem Sound.distinct_flights (sound : c.Sound) :
    (c.flights.map (·.task.request)).Nodup ∧
    ∀ flight ∈ c.flights, ∀ request ∈ (c.mailbox.filterMap Message.answered?).map (·.1),
      flight.task.request ≠ request := by
  have distinct := sound.distinct
  unfold due at distinct
  rw [List.map_append, List.nodup_append, List.map_map] at distinct
  obtain ⟨flying, _, apart⟩ := distinct
  exact ⟨flying, fun flight mem request answered =>
    apart _ (List.mem_map.mpr ⟨flight, mem, rfl⟩) _ answered⟩

/-- A prepare that is answered was begun. -/
theorem Sound.answer_waiting (sound : c.Sound) {request : Nat} (asked : c.isAsked request) :
    (c.flights.filter (·.task.request ≠ request)).filter (!·.begun) = c.waiting := by
  obtain ⟨asked, found, begun⟩ := (Option.any_eq_true _ _).mp asked
  have same : asked.task.request = request := by simpa using List.find?_some found
  rw [List.filter_filter, waiting]
  refine List.filter_congr fun flight mem => ?_
  cases state : flight.begun with
  | true => rfl
  | false =>
    have other : flight.task.request ≠ request := by
      intro equal
      have this := eq_of_request sound.distinct_flights.1 mem (List.mem_of_find?_eq_some found)
        (equal.trans same.symm)
      rw [this, begun] at state
      contradiction
    simp [other]

theorem beginFlight_waiting (c : Core σ L) :
    c.beginFlight.world.engine = c.world.engine ∧ c.beginFlight.phase = c.phase ∧
    ∃ begins : List Flight, c.waiting = begins ++ c.beginFlight.waiting ∧
      c.beginFlight.world.dealings = { c.world.dealings with
        calls := (begins.map fun flight => .prepare flight.task.output.path).reverse ++
          c.world.dealings.calls } := by
  have begun := begin_waiting c.flights
  unfold beginFlight
  split
  case h_1 => exact ⟨rfl, rfl, [], rfl, rfl⟩
  case h_2 i found =>
    rw [found] at begun
    obtain ⟨flight, there, waiting⟩ := begun
    rw [there]
    exact ⟨rfl, rfl, [flight], waiting, rfl⟩

variable [Surroundings σ L]

/-- Whether in an action the engine takes no message but one that it expects, while somebody holds
it. -/
def isUndisturbed (c : Core σ L) (action : Action σ L) : Bool :=
  c.isHeld && match action with
    | .take => c.next?.all c.world.engine.expects
    | _ => true

/-- Whether in a run the engine takes no message but those that it expects, while somebody holds
it. -/
def undisturbed : Core σ L → List (Action σ L) → Bool
  | _, [] => true
  | c, action :: rest => c.isUndisturbed action && (c.act action).undisturbed rest

/-- The sessions whose completion the engine learned of in a run, in order. -/
def completions (c : Core σ L) (actions : List (Action σ L)) : List SessionId :=
  (c.taken actions).filterMap Message.completed?

/-- What the audio output is asked for in a run, in order. -/
def outputCalls (c : Core σ L) (actions : List (Action σ L)) : List OutputCall :=
  (c.story actions).filterMap Effect.output?

/-- Of all that happens between two turns, only the beginning of prepares is a dealing with the audio
output. -/
theorem Sound.act_between (sound : c.Sound) (running : c.phase = .running) (held : c.isHeld)
    {action : Action σ L} (other : action ≠ .take) :
    (c.act action).world.engine = c.world.engine ∧ (c.act action).phase = c.phase ∧
    ∃ begins : List Flight, c.waiting = begins ++ (c.act action).waiting ∧
      (c.act action).world.dealings = { c.world.dealings with
        calls := (begins.map fun flight => .prepare flight.task.output.path).reverse ++
          c.world.dealings.calls } := by
  by_cases aloof : action.isAloof
  case pos =>
    have hides := c.act_hides aloof
    have settled := (sound.act action).settled
    have moves := act_moves sound.settled action
    generalize c.act action = c' at hides settled moves ⊢
    cases moves with
    | stays _ _ stays =>
      have flights := hides.flights sound.settled.tasks settled.tasks
      refine ⟨stays.engine, stays.phase, [], by rw [waiting, waiting, flights]; rfl, ?_⟩
      exact stays.mutters.dealings (congrArg Coverage.asked hides.coverage)
    | ends _ cause => rcases cause with ⟨rfl, _⟩ | ⟨rfl, _⟩ <;> contradiction
    | turns | delivers | lapses | refuses => contradiction
  case neg =>
    cases action with
    | take => contradiction
    | close =>
      have same : c.act .close = c := by
        rw [Core.act, endUnlessHeld, if_pos held]
        split <;> rfl
      rw [same]
      exact ⟨rfl, rfl, [], rfl, rfl⟩
    | ask => exact c.beginFlight_waiting
    | answer request result =>
      rw [Core.act]
      split
      case isFalse => exact ⟨rfl, rfl, [], rfl, rfl⟩
      case isTrue asked =>
        have answered := sound.answer_waiting asked
        obtain ⟨flight, found, _⟩ := (Option.any_eq_true _ _).mp asked
        have lands : c.land request result = { c with
            flights := c.flights.filter (·.task.request ≠ request)
            mailbox := c.mailbox ++ [.prepared request flight.task.item result] } := by
          have reached : (c.phase = .running && c.isHeld) = true := by simp [running, held]
          unfold land
          rw [found]
          exact (if_pos reached).trans (if_pos running)
        rw [lands]
        exact ⟨rfl, rfl, [], answered.symm, rfl⟩
    | _ => contradiction

/-- Between two turns no answer gets lost. -/
theorem Sound.due_between (sound : c.Sound) (running : c.phase = .running) (held : c.isHeld)
    {action : Action σ L} (other : action ≠ .take) {request : Nat}
    (due : request ∈ c.due.map (·.1)) : request ∈ (c.act action).due.map (·.1) := by
  have listens : c.listens = true := by simp [Core.listens, running, held]
  have moves := act_moves sound.settled action
  generalize c.act action = c' at moves ⊢
  cases moves with
  | stays _ _ stays =>
    rw [stays.due]
    exact due
  | turns => contradiction
  | ends _ cause =>
    rcases cause with ⟨rfl, _⟩ | ⟨rfl, _, released⟩
    · contradiction
    · cases held.symm.trans released
  | @delivers answered result flight _ found =>
    have same : flight.task.request = answered := by simpa using List.find?_some found
    simp only [Core.due, List.map_append, List.map_map, List.filterMap_append] at due ⊢
    rcases List.mem_append.mp due with flying | waiting
    · obtain ⟨other, mem, rfl⟩ := List.mem_map.mp flying
      by_cases landed : other.task.request = answered
      · refine List.mem_append_right _ (List.mem_append_right _ ?_)
        exact List.mem_singleton.mpr landed
      · exact List.mem_append_left _ (List.mem_map_of_mem (List.mem_filter.mpr ⟨mem, by simpa⟩))
    · exact List.mem_append_right _ (List.mem_append_left _ waiting)
  | lapses _ deaf | refuses _ deaf => cases listens.symm.trans deaf

/-- What is going on about an item, with what the audio output was asked for since it was started. -/
inductive On (c : Core σ L) (item : Item) : List OutputCall → Prop where
  /-- It is to be prepared. -/
  | due {request : PrepareRequest} {flight : Flight}
    (preparing : c.world.engine.mode = .preparing item request) (auto : request.autoplay)
    (still : request.seekTo = none) (waiting : c.waiting = [flight])
    (asks : flight.task.request = request.id) (path : flight.task.output.path = item.path) :
    On c item []
  /-- The host was asked to prepare it, and the answer is due. -/
  | asked {request : PrepareRequest} (preparing : c.world.engine.mode = .preparing item request)
    (auto : request.autoplay) (still : request.seekTo = none) (waiting : c.waiting = [])
    (due : request.id ∈ c.due.map (·.1)) : On c item [.prepare item.path]
  | playing {session : SessionId} (playing : c.world.engine.mode = .playing item session)
    (waiting : c.waiting = []) : On c item [.prepare item.path, .play session]

theorem act_take_turned {m : Message} (next : c.next? = some m) (other : m ≠ .shutdown) :
    ∃ mailbox, c.act .take = c.turned m mailbox :=
  ⟨_, (act_take_eq next other).trans (collect_eq _)⟩

/-- What a turn started is under way then. -/
theorem Sound.turned_flights (sound : c.Sound) (m : Message) (mailbox : List Message)
    {tasks : List PrepareTask} (started : (c.world.turn m).tasks = c.world.tasks ++ tasks) :
    (c.turned m mailbox).flights = c.flights ++ tasks.map fun task => { task : Flight } := by
  rw [sound.settled.tasks, List.nil_append] at started
  unfold turned
  rw [started]

theorem Sound.turned_waiting (sound : c.Sound) (m : Message) (mailbox : List Message)
    {tasks : List PrepareTask} (started : (c.world.turn m).tasks = c.world.tasks ++ tasks) :
    (c.turned m mailbox).waiting = c.waiting ++ tasks.map fun task => { task : Flight } := by
  have new : (tasks.map fun task => ({ task } : Flight)).filter (!·.begun) =
      tasks.map fun task => { task } := by
    rw [List.filter_eq_self]
    intro flight mem
    obtain ⟨task, _, rfl⟩ := List.mem_map.mp mem
    rfl
  unfold waiting
  rw [sound.turned_flights m mailbox started, List.filter_append, new]

theorem Sound.turned_still_waiting (sound : c.Sound) (m : Message) (mailbox : List Message)
    (kept : (c.world.turn m).tasks = c.world.tasks) :
    (c.turned m mailbox).waiting = c.waiting := by
  rw [sound.turned_waiting m mailbox (kept.trans (List.append_nil _).symm)]
  exact List.append_nil _

theorem Sound.turned_on (sound : c.Sound) {m : Message} {item : Item} (waiting : c.waiting = [])
    (starts : c.world.Starts item (c.world.turn m)) (mailbox : List Message) :
    (c.turned m mailbox).On item [] := by
  obtain ⟨request, output, preparing, auto, still, path, task⟩ := starts
  have waits : (c.turned m mailbox).waiting = [{ task := ⟨request.id, item, output⟩ }] := by
    rw [sound.turned_waiting m mailbox task, waiting]
    rfl
  exact .due preparing auto still waits rfl path

theorem Sound.on_between (sound : c.Sound) (running : c.phase = .running) (held : c.isHeld)
    {item : Item} {calls : List OutputCall} (on : c.On item calls) {action : Action σ L}
    (other : action ≠ .take) : ∃ more, (c.act action).On item (calls ++ more) ∧
      (c.act action).world.dealings.calls = more.reverse ++ c.world.dealings.calls := by
  obtain ⟨engine, _, begins, waits, dealings⟩ := sound.act_between running held other
  rw [dealings]
  cases on with
  | @due request flight preparing auto still waiting asks path =>
    rw [← engine] at preparing
    rw [waiting] at waits
    cases begins with
    | nil => exact ⟨[], .due preparing auto still waits.symm asks path, rfl⟩
    | cons first rest =>
      obtain ⟨rfl, none_left⟩ := List.cons.inj waits
      obtain ⟨rfl, left⟩ := List.append_eq_nil_iff.mp none_left.symm
      have flying : flight ∈ c.flights := by
        have mem : flight ∈ c.waiting := by simp [waiting]
        exact (List.mem_filter.mp mem).1
      have due : request.id ∈ c.due.map (·.1) := by
        rw [← asks]
        exact List.mem_map_of_mem (List.mem_append_left _ (List.mem_map_of_mem flying))
      have due := sound.due_between running held other due
      exact ⟨[.prepare item.path], .asked preparing auto still left due, by simp [path]⟩
  | asked preparing auto still waiting due =>
    rw [← engine] at preparing
    rw [waiting] at waits
    obtain ⟨rfl, waiting⟩ := List.append_eq_nil_iff.mp waits.symm
    have due := sound.due_between running held other due
    exact ⟨[], .asked preparing auto still waiting due, rfl⟩
  | playing playing waiting =>
    rw [← engine] at playing
    rw [waiting] at waits
    obtain ⟨rfl, waiting⟩ := List.append_eq_nil_iff.mp waits.symm
    exact ⟨[], .playing playing waiting, rfl⟩

theorem Sound.on_prepared (sound : c.Sound) {item about : Item} {calls : List OutputCall}
    (on : c.On item calls) {id : Nat} {prepared : PreparedSession}
    (next : c.next? = some (.prepared id about (.ok prepared)))
    (expected : c.world.engine.expects (.prepared id about (.ok prepared)))
    (agreed : (c.act .take).world.dealings.refusals = c.world.dealings.refusals) :
    (c.act .take).On item (calls ++ [.play prepared.session]) ∧
    (c.act .take).world.engine.cursor = c.world.engine.cursor ∧
    (c.act .take).world.dealings.calls = .play prepared.session :: c.world.dealings.calls := by
  cases on with
  | @due request flight preparing auto still waiting asks path =>
    -- No answer is there before the host was asked.
    have same : request.id = id := by simpa [Engine.expects, preparing, Mode.awaited?] using expected
    obtain ⟨_, ⟨rest, mailbox⟩, _⟩ := act_take next nofun
    have flying : flight ∈ c.flights := by
      have mem : flight ∈ c.waiting := by simp [waiting]
      exact (List.mem_filter.mp mem).1
    have answered : id ∈ (c.mailbox.filterMap Message.answered?).map (·.1) := by
      rw [mailbox]
      exact List.mem_cons_self
    exact absurd (asks.trans same) (sound.distinct_flights.2 flight flying id answered)
  | @asked request preparing auto still waiting =>
    obtain rfl : request.id = id := by
      simpa [Engine.expects, preparing, Mode.awaited?] using expected
    obtain rfl := sound.answers_active (due_of_next next) preparing rfl
    obtain ⟨mailbox, turned⟩ := act_take_turned next nofun
    rw [turned] at agreed ⊢
    have free : c.world.engine.live = none := by rw [sound.coherent.live, preparing]; rfl
    obtain ⟨dealings, playing, cursor, tasks⟩ :=
      c.world.turn_of_prepared preparing auto still free agreed
    have waits := sound.turned_still_waiting _ mailbox tasks
    exact ⟨.playing playing (waits.trans waiting), cursor, congrArg Dealings.calls dealings⟩
  | playing playing => simp [Engine.expects, playing] at expected

/-- As long as an item is on its way nothing else is done, until its session is completed. -/
theorem Sound.act_on (sound : c.Sound) (running : c.phase = .running) {item : Item}
    {calls : List OutputCall} (on : c.On item calls) {action : Action σ L}
    (undisturbed : c.isUndisturbed action)
    (agreed : (c.act action).world.dealings.refusals = c.world.dealings.refusals) :
    (c.act action).phase = .running ∧
    ((∃ more, (c.act action).On item (calls ++ more) ∧
        (c.act action).world.engine.cursor = c.world.engine.cursor ∧
        (c.takes action).filterMap Message.completed? = [] ∧
        (c.act action).world.dealings.calls = more.reverse ++ c.world.dealings.calls) ∨
      ∃ session, action = .take ∧ c.next? = some (.output (.completed session)) ∧
        c.world.engine.mode = .playing item session ∧ c.waiting = [] ∧
        calls = [.prepare item.path, .play session]) := by
  obtain ⟨held, expected⟩ := Bool.and_eq_true_iff.mp undisturbed
  by_cases other : action ≠ .take
  · obtain ⟨engine, phase, _⟩ := sound.act_between running held other
    obtain ⟨more, on, calls⟩ := sound.on_between running held on other
    have untaken : c.takes action = [] := by cases action <;> first | rfl | contradiction
    refine ⟨phase.trans running, .inl ⟨more, on, congrArg Engine.cursor engine, ?_, calls⟩⟩
    rw [untaken]
    rfl
  · obtain rfl : action = .take := Classical.not_not.mp other
    cases next : c.next? with
    | none =>
      rw [act_take_nothing next]
      exact ⟨running, .inl ⟨[], by rwa [List.append_nil], rfl, by simp [takes, next], rfl⟩⟩
    | some m =>
      have expected : c.world.engine.expects m := by simpa [next] using expected
      have lasting : m ≠ .shutdown := by
        rintro rfl
        contradiction
      have phase : (c.act .take).phase = .running := by
        obtain ⟨mailbox, turned⟩ := act_take_turned next lasting
        rw [turned]
        exact running
      refine ⟨phase, ?_⟩
      cases m with
      | prepared id about result =>
        cases result with
        | error => contradiction
        | ok prepared =>
          obtain ⟨on, cursor, calls⟩ := sound.on_prepared on next expected agreed
          exact .inl ⟨_, on, cursor, by simp [takes, next, Message.completed?], calls⟩
      | output event =>
        cases event with
        | failed => contradiction
        | completed session =>
          cases on with
          | due preparing | asked preparing => simp [Engine.expects, preparing] at expected
          | playing playing waiting =>
            obtain rfl : _ = session := by
              simpa [Engine.expects, playing, Mode.session?] using expected
            exact .inr ⟨_, rfl, rfl, playing, waiting, rfl⟩
      | _ => contradiction

end Core
end MediaPlayback
