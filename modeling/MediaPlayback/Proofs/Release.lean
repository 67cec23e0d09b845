import MediaPlayback.Proofs.Ledger

/-! What becomes of sessions when the engine ends. It ends at a shutdown message, and the answers
that wait behind that message are lost with their sessions. Every other session that the host
returned was unloaded. -/

namespace MediaPlayback

theorem World.unloadsIn_call_unload {σ L : Type} [Surroundings σ L] (w : World σ L)
    (session other : SessionId) :
    Effect.unloadsIn other (w.call (.unload session)).2.trace =
      Effect.unloadsIn other w.trace + if session = other then 1 else 0 := by
  obtain ⟨result, outside, call⟩ := w.exists_call (.unload session)
  rw [call, Effect.unloadsIn, List.countP_cons]
  simp [Effect.unloads, Effect.unloadsIn]

namespace Core

variable {σ L : Type}

/-- Of every session that was returned the answer waits or was lost, or the session is live or was
unloaded. -/
def Keeps (c : Core σ L) (lost returned : List SessionId) : Prop :=
  ∀ session ∈ returned, session ∈ c.mailbox.filterMap Message.handed? ∨
    0 < (c.world.engine.holding none).tally session c.world.trace ∨ session ∈ lost

variable {c c' : Core σ L} {lost returned : List SessionId}

/-- What is kept stays so if each answer that waits goes on waiting, is settled, or is lost. -/
theorem Keeps.step {gone came : List SessionId} (keeps : c.Keeps lost returned)
    (answers : ∀ session ∈ c.mailbox.filterMap Message.handed?,
      session ∈ c'.mailbox.filterMap Message.handed? ∨
      0 < (c'.world.engine.holding none).tally session c'.world.trace ∨ session ∈ gone)
    (settled : ∀ session, 0 < (c.world.engine.holding none).tally session c.world.trace →
      0 < (c'.world.engine.holding none).tally session c'.world.trace)
    (fresh : c'.Keeps [] came) : c'.Keeps (lost ++ gone) (returned ++ came) := by
  intro session mem
  rw [List.mem_append (t := gone)]
  rcases List.mem_append.mp mem with mem | mem
  · rcases keeps session mem with waits | counted | already
    · rcases answers session waits with waits | counted | now
      · exact .inl waits
      · exact .inr (.inl counted)
      · exact .inr (.inr (.inr now))
    · exact .inr (.inl (settled session counted))
    · exact .inr (.inr (.inl already))
  · rcases fresh session mem with waits | counted | nothing
    · exact .inl waits
    · exact .inr (.inl counted)
    · contradiction

theorem Keeps.nothing (c : Core σ L) (lost : List SessionId) : c.Keeps lost [] :=
  fun _ mem => absurd mem List.not_mem_nil

variable [Surroundings σ L] {action : Action σ L}

/-- Handling an answer settles it: its session is adopted or unloaded. -/
theorem Keeps.turns (keeps : c.Keeps lost returned) (sound : c.Sound) {m : Message}
    {rest : List Message} (next : c.mailbox = m :: rest) (posts : List Message) :
    (c.turned m (rest ++ posts)).Keeps (lost ++ []) (returned ++ []) := by
  obtain ⟨hand', place, leads⟩ := c.world.turn_leads m sound.coherent
  -- A session that stays in hand is live.
  have counted : ∀ session, 0 < (c.world.engine.holding none).tally session c.world.trace +
      (if m.handed? = some session then 1 else 0) →
      0 < ((c.world.turn m).engine.holding none).tally session (c.world.turn m).trace := by
    intro session before
    have moved := leads.tally session
    rw [Engine.tally_holding _ hand', Engine.tally_holding _ m.handed?] at moved
    by_cases held : hand' = some session
    · rcases place with none | live
      · rw [none] at held
        contradiction
      · exact Holding.tally_pos_of_live (live.symm.trans held)
    · rw [if_neg held] at moved
      omega
  refine keeps.step ?_ ?_ (.nothing _ [])
  · intro session waits
    rw [next, filterMap_cons_toList] at waits
    rcases List.mem_append.mp waits with handed | later
    · refine .inr (.inl (counted session ?_))
      rw [if_pos (Option.mem_toList.mp handed)]
      omega
    · refine .inl ?_
      show session ∈ (rest ++ posts).filterMap Message.handed?
      rw [List.filterMap_append]
      exact List.mem_append_left _ later
  · intro session before
    exact counted session (Nat.add_pos_left before _)

theorem Keeps.moves (keeps : c.Keeps lost returned) (sound : c.Sound) (moves : c.Moves action c') :
    c'.Keeps (lost ++ c.loses action) (returned ++ c.returns action) := by
  cases moves with
  | stays untaken unreturned stays =>
    obtain ⟨more, mailbox, _, _⟩ := stays.mailbox
    rw [loses_of_untaken untaken, unreturned]
    refine keeps.step ?_ ?_ (.nothing c' [])
    · intro session waits
      rw [mailbox, List.filterMap_append]
      exact .inl (List.mem_append_left _ waits)
    · intro session counted
      rw [stays.engine, Holding.tally, stays.mutters.unloadsIn]
      exact counted
  | @turns m rest posts running next other plain =>
    have first : c.next? = some m := by simp [next?, running, next]
    rw [loses_of_next first other]
    exact keeps.turns sound next posts
  | ends running cause _ _ _ _ _ leads =>
    obtain ⟨_, unreturned, loses⟩ := end_loses running cause
    rw [loses, unreturned]
    refine keeps.step (fun session waits => .inr (.inr waits)) ?_ (.nothing c' [])
    intro session counted
    rw [leads.tally session]
    exact counted
  | @delivers request result flight asked found listens =>
    refine keeps.step ?_ (fun session counted => counted) ?_
    · intro session waits
      rw [List.filterMap_append]
      exact .inl (List.mem_append_left _ waits)
    · intro session mem
      rw [← handed_of_asked asked flight.task.item result] at mem
      rw [List.filterMap_append, filterMap_cons_toList]
      exact .inl (List.mem_append_right _ (List.mem_append_left _ mem))
  | lapses =>
    exact keeps.step (fun session waits => .inl waits) (fun session counted => counted)
      (.nothing _ [])
  | @refuses request prepared asked deaf =>
    let world := (c.world.call (.unload prepared.session)).2
    have tally : ∀ session, (world.engine.holding none).tally session world.trace =
        (c.world.engine.holding none).tally session c.world.trace +
          if prepared.session = session then 1 else 0 := by
      intro session
      rw [Engine.tally_holding_none, Engine.tally_holding_none, World.unloadsIn_call_unload,
        Nat.add_right_comm]
      rfl
    refine keeps.step (fun session waits => .inl waits) ?_ ?_
    · intro session counted
      exact Nat.lt_of_lt_of_eq (Nat.add_pos_left counted _) (tally session).symm
    · intro session mem
      have same : prepared.session = session := by
        simp only [returns, asked, if_true, List.mem_singleton] at mem
        exact mem.symm
      refine .inr (.inl (Nat.lt_of_lt_of_eq ?_ (tally session).symm))
      rw [if_pos same]
      exact Nat.succ_pos _

theorem Keeps.launch (c : Core σ L) (interval : Duration) : (c.launch interval).Keeps [] [] :=
  .nothing _ []

/-- What the host returned is kept in every run. -/
theorem Keeps.after (keeps : c.Keeps lost returned) (sound : c.Sound)
    (actions : List (Action σ L)) :
    (c.after actions).Keeps (lost ++ along loses c actions) (returned ++ c.returned actions) := by
  induction actions generalizing c lost returned with
  | nil => simpa [Core.returned, along] using keeps
  | cons action rest ih =>
    have now := keeps.moves sound (act_moves sound.settled action)
    have later := ih now (sound.act action)
    simpa [Core.returned, along] using later

omit [Surroundings σ L] in
/-- An engine that ended has no messages and no session. -/
theorem Sound.of_ended (sound : c.Sound) (ended : c.phase = .ended) :
    c.mailbox = [] ∧ c.world.engine.live = none := by
  obtain ⟨empty, idle⟩ := sound.idle (by rw [ended]; nofun)
  refine ⟨empty, ?_⟩
  rw [sound.coherent.live, idle]
  rfl

/-- Once the engine ended, every session that the host ever returned was unloaded, unless its answer
waited behind the message that ended the engine. -/
theorem unloaded_unless_lost (blank : c.Blank) (interval : Duration) (actions : List (Action σ L))
    (ended : ((c.launch interval).after actions).phase = .ended) :
    ∀ session ∈ (c.launch interval).returned actions,
      0 < Effect.unloadsIn session ((c.launch interval).after actions).world.trace ∨
      session ∈ along loses (c.launch interval) actions := by
  intro session mem
  have launched := Sound.launch blank interval
  have sound := launched.after actions
  have kept := (Keeps.launch c interval).after launched actions session mem
  obtain ⟨empty, unowned⟩ := sound.of_ended ended
  rw [empty, Engine.tally_holding_none, unowned] at kept
  rcases kept with waits | counted | lost
  · contradiction
  · exact .inl counted
  · exact .inr lost

/-- If no session is returned twice, each one was unloaded exactly once by then, and those that were
lost never. -/
theorem unloaded_once_unless_lost (blank : c.Blank) (interval : Duration)
    (actions : List (Action σ L)) (fresh : ((c.launch interval).returned actions).Nodup)
    (ended : ((c.launch interval).after actions).phase = .ended) :
    ∀ session ∈ (c.launch interval).returned actions,
      Effect.unloadsIn session ((c.launch interval).after actions).world.trace =
        if session ∈ along loses (c.launch interval) actions then 0 else 1 := by
  intro session mem
  have launched := Sound.launch blank interval
  have sound := launched.after actions
  have ledger := (Ledger.launch blank interval).after launched actions fresh
  simp only [List.nil_append] at ledger
  obtain ⟨empty, unowned⟩ := sound.of_ended ended
  have balance := ledger.balance session
  have split := ledger.split session
  have once := List.nodup_iff_count.mp fresh session
  have present := List.count_pos_iff.mpr mem
  rw [Engine.tally_holding_none, unowned, if_neg nofun] at balance
  rw [empty, List.filterMap_nil, List.count_nil] at split
  split
  case isTrue lost =>
    have counted := List.count_pos_iff.mpr lost
    omega
  case isFalse found =>
    have counted := List.count_eq_zero.mpr found
    omega

/-- A host may be left with a session: the answer gets to the mailbox behind the shutdown. -/
theorem exists_left_loaded : ∃ actions : List (Action Obliging Empty),
    ((obliged.launch .zero).after actions).phase = .ended ∧
    ((obliged.launch .zero).after actions).flights = [] ∧
    (obliged.launch .zero).returned actions = [⟨1⟩] ∧
    Effect.unloadsIn ⟨1⟩ ((obliged.launch .zero).after actions).world.trace = 0 :=
  ⟨[.command ⟨.playItem .song, rfl⟩, .take, .ask, .command ⟨.shutdown, rfl⟩,
    .answer 1 (.ok ⟨⟨1⟩, none⟩), .take], by decide⟩

end Core
end MediaPlayback
