import MediaPlayback.Proofs.Invariant

/-! The session ledger. A host that never returns a session twice gets every session back: once the
answer with a session was handled, the session is the live one, or it was unloaded exactly once, and
sessions are used only while they are the live one. -/

namespace MediaPlayback.Core

variable {σ L : Type}

/-- The sessions whose answers are lost because the engine takes the message that ends it. -/
def loses (c : Core σ L) : Action σ L → List SessionId
  | .take => if c.next? matches some .shutdown then c.mailbox.filterMap Message.handed? else []
  | _ => []

/-- The books of a run: the sessions of the answers that were handled, those that were returned too
late, those whose answers were lost, and those that were returned at all. -/
structure Ledger (c : Core σ L) (handled late lost returned : List SessionId) : Prop where
  owns : (c.world.engine.holding none).Owns c.world.trace
  /-- What was handled or came too late is live or was unloaded. -/
  balance : ∀ session, (c.world.engine.holding none).tally session c.world.trace =
    handled.count session + late.count session
  /-- What was returned waits, was handled, came too late or was lost. -/
  split : ∀ session, (c.mailbox.filterMap Message.handed?).count session +
    handled.count session + late.count session + lost.count session = returned.count session

variable [Surroundings σ L] {c c' : Core σ L} {action : Action σ L}
  {handled late lost returned : List SessionId}

omit [Surroundings σ L] in
theorem loses_of_untaken (untaken : c.takes action = []) : c.loses action = [] := by
  cases action with
  | take =>
    have next : c.next? = none := Option.toList_eq_nil_iff.mp untaken
    rw [loses, next]
    rfl
  | _ => rfl

omit [Surroundings σ L] in
theorem loses_of_next {m : Message} (first : c.next? = some m) (other : m ≠ .shutdown) :
    c.loses .take = [] := by
  rw [loses, first]
  cases m with
  | shutdown => contradiction
  | _ => rfl

/-- The message that ends the engine is not an answer, and all answers behind it are lost. -/
theorem end_loses (running : c.phase = .running)
    (cause : (action = .take ∧ ∃ rest, c.mailbox = .shutdown :: rest) ∨
      action = .close ∧ c.mailbox = [] ∧ c.isHeld = false) :
    (c.takes action).filterMap Message.handed? = [] ∧ c.returns action = [] ∧
    c.loses action = c.mailbox.filterMap Message.handed? := by
  rcases cause with ⟨rfl, rest, next⟩ | ⟨rfl, idle, _⟩
  · have first : c.next? = some .shutdown := by simp [next?, running, next]
    refine ⟨?_, rfl, ?_⟩
    · rw [takes, first]
      rfl
    · rw [loses, first]
      rfl
  · rw [idle]
    exact ⟨rfl, rfl, rfl⟩

omit [Surroundings σ L] in
theorem handed_of_asked {request : Nat} (asked : c.isAsked request) (item : Item)
    (result : Except HostError PreparedSession) :
    (Message.prepared request item result).handed?.toList = c.returns (.answer request result) := by
  cases result <;> simp [Message.handed?, returns, asked]

omit [Surroundings σ L] in
theorem count_toList (o : Option SessionId) (session : SessionId) :
    o.toList.count session = if o = some session then 1 else 0 := by
  cases o <;> simp [List.count_singleton]

theorem count_handed_cons (m : Message) (rest : List Message) (session : SessionId) :
    ((m :: rest).filterMap Message.handed?).count session =
      (if m.handed? = some session then 1 else 0) +
        (rest.filterMap Message.handed?).count session := by
  rw [filterMap_cons_toList, List.count_append, count_toList]

theorem handed_of_plain {messages : List Message} (plain : ∀ m ∈ messages, m.isAnswer = false) :
    messages.filterMap Message.handed? = [] :=
  List.filterMap_eq_nil_iff.mpr fun m mem => Message.handed?_eq_none (plain m mem)

omit [Surroundings σ L] in
theorem Ledger.stays (ledger : c.Ledger handled late lost returned) (stays : c.Stays c') :
    c'.Ledger handled late lost returned := by
  obtain ⟨owns, balance, split⟩ := ledger
  obtain ⟨more, mailbox, plain, _⟩ := stays.mailbox
  refine ⟨?_, ?_, ?_⟩
  · rw [stays.engine]
    exact (World.Passes.mutters stays.mutters _).owns owns
  · intro session
    rw [stays.engine, Holding.tally, stays.mutters.unloadsIn]
    exact balance session
  · rw [mailbox, List.filterMap_append, handed_of_plain plain, List.append_nil]
    exact split

/-- A session that is live already cannot be handed over: it would have been returned twice. -/
theorem Ledger.handed_over (ledger : c.Ledger handled late lost returned) {m : Message}
    {rest : List Message} (next : c.mailbox = m :: rest) (fresh : returned.Nodup)
    {hand' : Option SessionId} (place : hand' = none ∨ hand' = (c.world.turn m).engine.live)
    (leads : World.Leads m.handed? c.world hand' (c.world.turn m)) : hand' = none := by
  rcases place with none | live
  · exact none
  cases hand' with
  | none => rfl
  | some session =>
    have live_once : 0 < ((c.world.turn m).engine.holding none).tally session
        (c.world.turn m).trace := Holding.tally_pos_of_live live.symm
    have moved := leads.tally session
    rw [Engine.tally_holding _ (some session), Engine.tally_holding _ m.handed?, if_pos rfl]
      at moved
    have once := List.nodup_iff_count.mp fresh session
    have balance := ledger.balance session
    have split := ledger.split session
    rw [next, count_handed_cons] at split
    omega

/-- A turn handles the answer that waited first, and it neither loses a session nor unloads one
twice. -/
theorem Ledger.turns (ledger : c.Ledger handled late lost returned) (sound : c.Sound) {m : Message}
    {rest posts : List Message} (next : c.mailbox = m :: rest)
    (plain : ∀ post ∈ posts, post.isAnswer = false) (fresh : returned.Nodup) :
    (c.turned m (rest ++ posts)).Ledger (handled ++ m.handed?.toList) late lost returned := by
  obtain ⟨hand', place, leads⟩ := c.world.turn_leads m sound.coherent
  obtain rfl := ledger.handed_over next fresh place leads
  have handing : (c.world.engine.holding m.handed?).Owns c.world.trace :=
    ⟨ledger.owns.live, ledger.owns.used⟩
  refine ⟨leads.owns handing, ?_, ?_⟩
  · intro session
    have moved := leads.tally session
    rw [Engine.tally_holding _ m.handed?] at moved
    have balance := ledger.balance session
    rw [List.count_append, count_toList]
    show ((c.world.turn m).engine.holding none).tally session (c.world.turn m).trace = _
    omega
  · intro session
    have split := ledger.split session
    rw [next, count_handed_cons] at split
    show ((rest ++ posts).filterMap Message.handed?).count session + _ + _ + _ = _
    rw [List.filterMap_append, handed_of_plain plain, List.append_nil, List.count_append,
      count_toList]
    omega

omit [Surroundings σ L] in
/-- The end loses the answers that wait. -/
theorem Ledger.ends (ledger : c.Ledger handled late lost returned) (emptied : c'.mailbox = [])
    (leads : World.Leads none c.world none c'.world) :
    c'.Ledger handled late (lost ++ c.mailbox.filterMap Message.handed?) returned := by
  refine ⟨leads.owns ledger.owns, ?_, ?_⟩
  · intro session
    rw [leads.tally session]
    exact ledger.balance session
  · intro session
    have split := ledger.split session
    rw [emptied, List.count_append]
    show 0 + _ + _ + _ = _
    omega

omit [Surroundings σ L] in
/-- A session that is live was returned before. -/
theorem Ledger.ne_live (ledger : c.Ledger handled late lost returned) {session : SessionId}
    (fresh : (returned ++ [session]).Nodup) : c.world.engine.live ≠ some session := by
  intro live
  have pos : 0 < (c.world.engine.holding none).tally session c.world.trace :=
    Holding.tally_pos_of_live live
  have once := List.nodup_iff_count.mp fresh session
  have split := ledger.split session
  rw [ledger.balance] at pos
  rw [List.count_append, List.count_singleton_self] at once
  omega

omit [Surroundings σ L] in
theorem Ledger.delivers (ledger : c.Ledger handled late lost returned) (request : Nat) (item : Item)
    (result : Except HostError PreparedSession) (returns : List SessionId)
    (handed : (Message.prepared request item result).handed?.toList = returns)
    (flights : List Flight) :
    Ledger { c with flights, mailbox := c.mailbox ++ [.prepared request item result] }
      handled late lost (returned ++ returns) := by
  refine ⟨ledger.owns, ledger.balance, ?_⟩
  intro session
  have split := ledger.split session
  have waiting : [Message.prepared request item result].filterMap Message.handed? = returns := by
    rw [← handed, filterMap_cons_toList]
    exact List.append_nil _
  dsimp only
  rw [List.filterMap_append, waiting, List.count_append, List.count_append]
  omega

/-- A session that comes too late is not the live one, and it is unloaded. -/
theorem Ledger.refuses (ledger : c.Ledger handled late lost returned) (session : SessionId)
    (fresh : (returned ++ [session]).Nodup) (flights : List Flight) :
    Ledger { c with flights, world := (c.world.call (.unload session)).2 }
      handled (late ++ [session]) lost (returned ++ [session]) := by
  have other : c.world.engine.live ≠ some session := ledger.ne_live fresh
  have discarded : ∀ result, (c.world.engine.holding (some session)).Takes
      (.called (L := L) (.unload session) result) (c.world.engine.holding none) :=
    fun _ => .discarded rfl other
  have handing : (c.world.engine.holding (some session)).Owns c.world.trace :=
    ⟨ledger.owns.live, ledger.owns.used⟩
  refine ⟨handing.takes (discarded _), ?_, ?_⟩
  · intro session'
    rw [List.count_append, ← Nat.add_assoc, ← ledger.balance session', List.count_singleton]
    refine (Holding.tally_takes (discarded _) session').trans ?_
    rw [Engine.tally_holding]
    simp
  · intro session'
    have split := ledger.split session'
    rw [List.count_append, List.count_append]
    dsimp only
    omega

theorem Ledger.moves (ledger : c.Ledger handled late lost returned) (sound : c.Sound)
    (moves : c.Moves action c') (fresh : (returned ++ c.returns action).Nodup) :
    c'.Ledger (handled ++ (c.takes action).filterMap Message.handed?)
      (late ++ c.returnsLate action) (lost ++ c.loses action) (returned ++ c.returns action) := by
  cases moves with
  | stays untaken unreturned stays =>
    rw [returnsLate, untaken, unreturned, ite_self, loses_of_untaken untaken]
    simpa using ledger.stays stays
  | @turns m rest posts running next other plain =>
    have first : c.next? = some m := by simp [next?, running, next]
    have taken : c.takes .take = [m] := by rw [takes, first]; rfl
    have turns := ledger.turns sound next plain (by simpa [returns] using fresh)
    rw [taken, loses_of_next first other]
    simpa [returnsLate, returns, filterMap_cons_toList] using turns
  | ends running cause ended emptied flights settled engine leads =>
    have ends := ledger.ends emptied leads
    obtain ⟨unhandled, unreturned, loses⟩ := end_loses running cause
    rw [returnsLate, unhandled, unreturned, ite_self, loses]
    simpa using ends
  | @delivers request result flight asked found listens =>
    have delivers := ledger.delivers request flight.task.item result _
      (handed_of_asked asked flight.task.item result)
      (c.flights.filter (·.task.request ≠ request))
    rw [returnsLate, if_pos listens]
    simpa [takes, loses] using delivers
  | @lapses request failure asked deaf =>
    have kept : Ledger { c with flights := c.flights.filter (·.task.request ≠ request) }
      handled late lost returned := ⟨ledger.owns, ledger.balance, ledger.split⟩
    simpa [returnsLate, returns, takes, loses] using kept
  | @refuses request prepared asked deaf =>
    have returns : c.returns (.answer request (.ok prepared)) = [prepared.session] := by
      simp [returns, asked]
    rw [returns] at fresh
    have refuses := ledger.refuses prepared.session fresh
      (c.flights.filter (·.task.request ≠ request))
    rw [returnsLate, returns]
    simpa [takes, deaf, loses] using refuses

theorem Ledger.launch (blank : c.Blank) (interval : Duration) :
    (c.launch interval).Ledger [] [] [] [] := by
  obtain ⟨started, _, mutters⟩ := launch_world blank interval
  have nothing : ((c.launch interval).world.engine.holding none).Owns (L := L) [] := by
    rw [started]
    exact ⟨rfl, fun later _ _ _ _ split => by simp at split⟩
  refine ⟨(World.Passes.mutters mutters _).owns nothing, ?_, ?_⟩
  · intro session
    rw [Holding.tally, mutters.unloadsIn, started]
    rfl
  · intro session
    show (c.mailbox.filterMap _).count session + 0 + 0 + 0 = 0
    rw [blank.mailbox]
    rfl

/-- The books are right after every run in which no session is returned twice. -/
theorem Ledger.after (ledger : c.Ledger handled late lost returned) (sound : c.Sound)
    (actions : List (Action σ L)) (fresh : (returned ++ c.returned actions).Nodup) :
    (c.after actions).Ledger (handled ++ (c.taken actions).filterMap Message.handed?)
      (late ++ along returnsLate c actions) (lost ++ along loses c actions)
      (returned ++ c.returned actions) := by
  induction actions generalizing c handled late lost returned with
  | nil => simpa [Core.taken, Core.returned, along] using ledger
  | cons action rest ih =>
    have fresh : (returned ++ (c.returns action ++ (c.act action).returned rest)).Nodup := fresh
    rw [← List.append_assoc] at fresh
    have now := ledger.moves sound (act_moves sound.settled action) (List.nodup_append.mp fresh).1
    have later := ih now (sound.act action) fresh
    simpa [Core.taken, Core.returned, along] using later

/-- The live session is the one that the engine's mode names, every session whose answer was handled
is that one or was unloaded exactly once, and sessions were used only while they were live. -/
theorem sessions_accounted_for (blank : c.Blank) (interval : Duration) (actions : List (Action σ L))
    (fresh : ((c.launch interval).returned actions).Nodup) :
    let world := ((c.launch interval).after actions).world
    world.engine.live = world.engine.mode.session? ∧
    Effect.liveIn world.trace = world.engine.live ∧
    (∀ request item prepared,
      .prepared request item (.ok prepared) ∈ (c.launch interval).taken actions →
      Effect.unloadsIn prepared.session world.trace =
        if world.engine.live = some prepared.session then 0 else 1) ∧
    Effect.UsedLive world.trace := by
  have sound := (Sound.launch blank interval).after actions
  have ledger := (Ledger.launch blank interval).after (Sound.launch blank interval) actions fresh
  simp only [List.nil_append] at ledger
  refine ⟨sound.coherent.live, ledger.owns.live, ?_, ledger.owns.used⟩
  intro request item prepared taken
  have handled : prepared.session ∈ ((c.launch interval).taken actions).filterMap Message.handed? :=
    List.mem_filterMap.mpr ⟨_, taken, rfl⟩
  have balance := ledger.balance prepared.session
  have split := ledger.split prepared.session
  have once := List.nodup_iff_count.mp fresh prepared.session
  have counted := List.count_pos_iff.mpr handled
  rw [Engine.tally_holding_none] at balance
  split
  case isTrue live =>
    rw [if_pos live] at balance
    omega
  case isFalse other =>
    rw [if_neg other] at balance
    omega

/-- The song that was overtaken was unloaded once, and the encore is live. -/
theorem sessions_accounted_for_overtaken :
    let actions := overtaken ++ [.take, .take]
    let world := ((obliged.launch .zero).after actions).world
    ((obliged.launch .zero).returned actions).Nodup ∧
    .prepared 1 .song (.ok ⟨⟨1⟩, none⟩) ∈ (obliged.launch .zero).taken actions ∧
    Effect.unloadsIn ⟨1⟩ world.trace = 1 ∧ world.engine.live = some ⟨2⟩ ∧
    Effect.UsedLive world.trace := by
  have fresh : ((obliged.launch .zero).returned (overtaken ++ [.take, .take])).Nodup := by decide
  have taken : .prepared 1 .song (.ok ⟨⟨1⟩, none⟩) ∈
      (obliged.launch .zero).taken (overtaken ++ [.take, .take]) := by
    rw [Core.taken, along_append]
    exact List.mem_append_right _ List.mem_cons_self
  have live : ((obliged.launch .zero).after (overtaken ++ [.take, .take])).world.engine.live =
      some ⟨2⟩ := by rfl
  have accounted := sessions_accounted_for obliged_blank .zero _ fresh
  dsimp only at accounted
  obtain ⟨_, _, unloaded, used⟩ := accounted
  have once := unloaded 1 .song _ taken
  rw [live, if_neg (by decide)] at once
  exact ⟨fresh, taken, once, live, used⟩

end MediaPlayback.Core
