import MediaPlayback.Proofs.Playthrough
import MediaPlayback.Proofs.Reset
import MediaPlayback.Proofs.Steadiness

/-! A cursor that is moved to an index by hand. Others see no change of state in that: where the active
item has to make way for another one, the other one is meant to be what the first one was, to be played
or to be paused. An index that there is not is refused, and nothing happens. -/

namespace MediaPlayback

namespace Engine

/-- The engine leaves things as they are if the cursor moves to an item: nothing is active, or it is the
item that the cursor was on. -/
def Unmoved (e : Engine) (item : Item) : Prop :=
  e.mode = .idle ∨ e.cursor.currentItem?.any (·.Same item)

instance (e : Engine) (item : Item) : Decidable (e.Unmoved item) :=
  inferInstanceAs (Decidable (e.mode = .idle ∨ e.cursor.currentItem?.any (·.Same item)))

/-- What takes the place of an item is meant to be what the item was meant to be. -/
theorem startRequest_of_candid (e : Engine) (candid : e.mode.Candid) (seekTo : Option Duration) :
    e.startRequest e.mode.wantsPlayback seekTo =
      ⟨e.lastRequest + 1, e.mode.wantsPlayback, seekTo, e.mode.reported⟩ := by
  unfold startRequest
  dsimp only
  split
  case isTrue => rfl
  case isFalse active =>
    cases mode : e.mode with
    | idle =>
      rw [mode] at active
      exact absurd rfl active
    | playing | paused => rfl
    | preparing item request =>
      rw [mode] at candid active
      have leads : request.reported = if request.autoplay then .playing else .paused := candid active
      cases autoplay : request.autoplay <;>
        simp_all [Mode.wantsPlayback, Mode.reported, PrepareRequest.resume, PrepareRequest.hold]

end Engine

namespace World

variable {σ L : Type}

/-- The calls that were made to the host, the last one first. -/
def calls (w : World σ L) : List HostCall := w.trace.filterMap Effect.call?

variable [Surroundings σ L]

theorem setIndex_outside (w : World σ L) {index : Nat} (outside : w.engine.cursor.length ≤ index) :
    w.setIndex index = (.error (.indexOutOfRange index w.engine.cursor.length), w) := by
  have refused : w.engine.cursor.setIndex index =
      .error (.indexOutOfRange index w.engine.cursor.length) := if_neg (Nat.not_lt.mpr outside)
  simp only [setIndex, refused]

theorem setIndex_inside (w : World σ L) {index : Nat} {item : Item}
    (inside : index < w.engine.cursor.length)
    (there : { w.engine.cursor with position := some index }.currentItem? = some item) :
    let moved := w.setCursor { w.engine.cursor with position := some index }
    w.setIndex index = (.ok (), if w.engine.Unmoved item then moved
      else moved.start item w.engine.mode.wantsPlayback none) := by
  have given : w.engine.cursor.setIndex index =
      .ok { w.engine.cursor with position := some index } := if_pos inside
  simp only [setIndex, given, there, setCursor_engine, Engine.Unmoved]
  grind

theorem publishItem_calls (w : World σ L) : w.publishItem.calls = w.calls := by
  unfold publishItem
  dsimp only
  split
  case isTrue => rfl
  case isFalse => exact tell_filterMap _ _ (fun _ _ => rfl) fun _ => rfl

/-- While others know the state, another item is announced, and if nothing is active and nothing is
shown, that is all. -/
theorem publish_of_calm (w : World σ L) (known : w.engine.lastState = w.engine.mode.reported)
    (calm : Item.SameOption w.engine.cursor.currentItem? w.engine.lastItem ∨
      w.engine.mode = .idle ∧ w.engine.shown = false) : w.publish = w.publishItem := by
  rcases calm with same | ⟨idle, hidden⟩
  · exact (w.publish_of_announced ⟨known, same⟩).trans (Eq.symm (if_pos same))
  · have engine := w.publishItem_engine
    have silent : w.publishItem.caption? = none := by
      rw [caption?, engine, idle]
      exact if_neg fun due => due.2 rfl
    have refreshed : w.publishItem.refreshNotification = w.publishItem := by
      rw [refreshNotification_eq, silent]
      exact if_neg (by rw [engine, hidden]; exact Bool.false_ne_true)
    unfold publish
    dsimp only
    rw [engine, if_pos known.symm, refreshed, ite_self]

/-- Where there is nothing to do about it, the cursor moves and others are told of its item. -/
theorem turn_of_unmoved (w : World σ L) (announced : w.engine.Announced)
    (withdraws : w.engine.Withdraws) {index : Nat} {item : Item}
    (inside : index < w.engine.cursor.length)
    (there : { w.engine.cursor with position := some index }.currentItem? = some item)
    (unmoved : w.engine.Unmoved item) :
    w.turn (.setIndex index) = (((w.log .engine .trace "Engine command"
      [("command", (Message.setIndex index).name)]).setCursor
        { w.engine.cursor with position := some index }).reply (.index (.ok ()))).publishItem := by
  let noted := w.log .engine .trace "Engine command" [("command", (Message.setIndex index).name)]
  let moved := (noted.setCursor { w.engine.cursor with position := some index }).reply
    (.index (.ok ()))
  have handled : noted.handle (.setIndex index) = moved := by
    rw [World.handle, noted.setIndex_inside inside there]
    dsimp only
    rw [if_pos (show noted.engine.Unmoved item from unmoved)]
    rfl
  have calm : Item.SameOption moved.engine.cursor.currentItem? moved.engine.lastItem ∨
      moved.engine.mode = .idle ∧ moved.engine.shown = false := by
    rcases unmoved with idle | same
    -- Nothing is shown while playback is stopped.
    · refine .inr ⟨idle, Bool.eq_false_iff.mpr fun shown => (withdraws (.inl shown)).2 ?_⟩
      rw [announced.state, idle]
      rfl
    -- Others know of the previous item, and this is the same track.
    · refine .inl ?_
      obtain ⟨previous, was, same⟩ := (Option.any_eq_true _ _).mp same
      have known := announced.item
      rw [was] at known
      rw [show moved.engine.cursor.currentItem? = some item from there]
      exact Item.SameOption.trans (b := some previous) (of_decide_eq_true same).symm known
  show (noted.handle (.setIndex index)).publish = moved.publishItem
  rw [handled]
  exact moved.publish_of_calm announced.state calm

/-- Otherwise the active item makes way for the one at the index. -/
theorem turn_of_moved (w : World σ L) {index : Nat} {item : Item}
    (inside : index < w.engine.cursor.length)
    (there : { w.engine.cursor with position := some index }.currentItem? = some item)
    (moves : ¬ w.engine.Unmoved item) :
    let moved := { w.engine with cursor := { w.engine.cursor with position := some index } }
    let turned := w.turn (.setIndex index)
    (∃ shown, turned.engine =
      (moved.started item w.engine.mode.wantsPlayback none).published shown) ∧
    turned.dealings = w.dealings.unload? w.engine.live ∧
    ∃ output, output.path = item.path ∧
      turned.tasks = w.tasks ++ [⟨w.engine.lastRequest + 1, item, output⟩] := by
  let noted := w.log .engine .trace "Engine command" [("command", (Message.setIndex index).name)]
  let moved := noted.setCursor { w.engine.cursor with position := some index }
  have handled : noted.handle (.setIndex index) =
      (moved.start item w.engine.mode.wantsPlayback none).reply (.index (.ok ())) := by
    rw [World.handle, noted.setIndex_inside inside there]
    dsimp only
    rw [if_neg (show ¬ noted.engine.Unmoved item from moves)]
    rfl
  obtain ⟨⟨shown, engine⟩, dealings, tasks⟩ := w.turn_dealings (.setIndex index)
  rw [show w.log .engine .trace "Engine command" [("command", _)] = noted from rfl, handled]
    at engine dealings tasks
  obtain ⟨calls, output, path, started⟩ :=
    moved.start_replaces item w.engine.mode.wantsPlayback none
  rw [Engine.startRequest_id] at started
  rw [reply_engine, start_engine] at engine
  exact ⟨⟨shown, engine⟩, dealings.trans calls, output, path, tasks.trans started⟩

end World

namespace Core

variable {σ L : Type} [Surroundings σ L] {c : Core σ L}

/-- When the engine takes the next message, it goes on as it was and makes no call. At most the cursor
moves, and others are told of its item. -/
structure LeavesBe (c : Core σ L) : Prop where
  engine : (c.act .take).world.engine = { c.world.engine with
    cursor := (c.act .take).world.engine.cursor
    lastItem := (c.act .take).world.engine.lastItem }
  flights : (c.act .take).flights = c.flights
  calls : (c.story [.take]).filterMap Effect.call? = []

/-- When the engine takes the next message, the live session makes way for an item, which is prepared to
be played if playback was wanted before, and to be paused if not. -/
structure ChangesOver (c : Core σ L) (item : Item) : Prop where
  mode : (c.act .take).world.engine.mode = .preparing item
    ⟨c.world.engine.lastRequest + 1, c.world.engine.mode.wantsPlayback, none,
      c.world.engine.mode.reported⟩
  live : (c.act .take).world.engine.live = none
  flights : ∃ output, output.path = item.path ∧
    (c.act .take).flights = c.flights ++ [{ task := ⟨c.world.engine.lastRequest + 1, item, output⟩ }]
  calls : c.outputCalls [.take] = (c.world.engine.live.map OutputCall.unload).toList

theorem Sound.setIndex_outside (sound : c.Sound) {index : Nat}
    (next : c.next? = some (.setIndex index)) (outside : c.world.engine.cursor.length ≤ index) :
    c.act .take = { c with
      mailbox := c.mailbox.tail
      world := (c.noting (.setIndex index)).reply
        (.index (.error (.indexOutOfRange index c.world.engine.cursor.length))) } := by
  let noted : LogRecord := ⟨.trace, LogSource.engine.target, "Engine command",
    [("command", (Message.setIndex index).name)], none⟩
  have handled : (c.noting (.setIndex index)).handle (.setIndex index) = { c.world with
      trace := [.replied (.index (.error (.indexOutOfRange index c.world.engine.cursor.length))),
        .logged noted] ++ c.world.trace } := by
    rw [World.handle, (c.noting (.setIndex index)).setIndex_outside outside]
    rfl
  exact sound.act_take_of_handled next (by simp) handled

theorem Sound.leavesBe (sound : c.Sound) (withdraws : c.world.engine.Withdraws) {index : Nat}
    {item : Item} (next : c.next? = some (.setIndex index))
    (inside : index < c.world.engine.cursor.length)
    (there : { c.world.engine.cursor with position := some index }.currentItem? = some item)
    (unmoved : c.world.engine.Unmoved item) :
    c.LeavesBe ∧
    (c.act .take).world.engine.cursor = { c.world.engine.cursor with position := some index } := by
  have turned := c.world.turn_of_unmoved sound.announced withdraws inside there unmoved
  obtain ⟨mailbox, taken⟩ := act_take_turned next (by simp)
  have tasks : (c.world.turn (.setIndex index)).tasks = c.world.tasks ++ [] := by
    rw [turned, (World.publishItem_mutters _).tasks, List.append_nil]
    rfl
  have calls : (c.act .take).world.calls = [] ++ c.world.calls := by
    rw [taken]
    show (c.world.turn (.setIndex index)).calls = c.world.calls
    rw [turned, World.publishItem_calls]
    rfl
  refine ⟨⟨?_, ?_, sound.filterMap_story .take Effect.call? calls⟩, ?_⟩
  · rw [taken, turned_engine, turned, World.publishItem_engine]
    rfl
  · rw [taken, sound.turned_flights _ mailbox tasks]
    exact List.append_nil _
  · rw [taken, turned_engine, turned, World.publishItem_engine]
    rfl

theorem Sound.changesOver (sound : c.Sound) (candid : c.world.engine.mode.Candid) {index : Nat}
    {item : Item} (next : c.next? = some (.setIndex index))
    (inside : index < c.world.engine.cursor.length)
    (there : { c.world.engine.cursor with position := some index }.currentItem? = some item)
    (moves : ¬ c.world.engine.Unmoved item) :
    c.ChangesOver item ∧
    (c.act .take).world.engine.cursor = { c.world.engine.cursor with position := some index } := by
  obtain ⟨⟨shown, engine⟩, dealings, output, path, tasks⟩ :=
    c.world.turn_of_moved inside there moves
  obtain ⟨mailbox, taken⟩ := act_take_turned next (by simp)
  refine ⟨⟨?_, ?_, ⟨output, path, ?_⟩, ?_⟩, ?_⟩
  · rw [taken, turned_engine, engine]
    exact congrArg (Mode.preparing item) (c.world.engine.startRequest_of_candid candid none)
  · rw [taken, turned_engine, engine]
    rfl
  · rw [taken]
    exact sound.turned_flights _ mailbox tasks
  · refine sound.outputCalls_act ?_
    rw [taken]
    show (c.world.turn (.setIndex index)).dealings.calls = _
    rw [dealings]
    cases c.world.engine.live <;> rfl
  · rw [taken, turned_engine, engine]
    rfl

/-- To move to an index keeps what is meant and what others see. There is nothing to an index that there
is not but an entry in the log and the reply that says so. Otherwise the cursor is at the index and what
is reported is as before: if nothing is active, or the item there is the track that was current, the
engine goes on as it was without any call to the host; if not, the live session makes way for the item
there, which is to be played exactly if playback was wanted before. -/
theorem index_keeps_intent (blank : c.Blank) (interval : Duration) (actions : List (Action σ L))
    {index : Nat} (next : ((c.launch interval).after actions).next? = some (.setIndex index)) :
    let s := (c.launch interval).after actions
    let s' := s.act .take
    let e := s.world.engine
    let e' := s'.world.engine
    (e.cursor.length ≤ index → s' = { s with
      mailbox := s.mailbox.tail
      world := (s.noting (.setIndex index)).reply
        (.index (.error (.indexOutOfRange index e.cursor.length))) }) ∧
    (index < e.cursor.length → ∃ item, e.cursor.items[index]? = some item ∧
      e'.cursor = { e.cursor with position := some index } ∧
      e'.cursor.currentItem? = some item ∧
      e'.mode.reported = e.mode.reported ∧
      (e.Unmoved item → s.LeavesBe) ∧ (¬ e.Unmoved item → s.ChangesOver item)) := by
  intro s s' e e'
  have launched := Sound.launch blank interval
  have sound : s.Sound := launched.after actions
  refine ⟨sound.setIndex_outside next, fun inside => ?_⟩
  have lawful : e.cursor.Lawful :=
    (launched.onTrack_after (launch_onTrack blank interval) actions).cursor
  have withdraws : e.Withdraws := launch_withdraws blank interval actions
  have candid : e.mode.Candid := candid_after blank interval actions
  obtain ⟨item, there⟩ := lawful.exists_itemAt (List.getElem_mem inside)
  have there : e.cursor.items[index]? = some item := by
    rw [lawful.getElem?_items, List.getElem?_eq_getElem inside]
    exact there
  have current : { e.cursor with position := some index }.currentItem? = some item :=
    (lawful.currentItem?_at index).trans there
  by_cases unmoved : e.Unmoved item
  · obtain ⟨leaves, cursor⟩ := sound.leavesBe withdraws next inside current unmoved
    refine ⟨item, there, cursor, cursor ▸ current, ?_, fun _ => leaves, absurd unmoved⟩
    rw [show e' = _ from leaves.engine]
  · obtain ⟨changes, cursor⟩ := sound.changesOver candid next inside current unmoved
    refine ⟨item, there, cursor, cursor ▸ current, ?_, (absurd · unmoved), fun _ => changes⟩
    rw [show e'.mode = _ from changes.mode]
    rfl

/-- The song of a playlist is paused in the background, and then the cursor is to go to the encore. -/
def leafed : List (Action Obliging Empty) :=
  [.command (.setPlaylist (.collection "Mix" [.song, .encore])), .take, .command .play, .take,
    .ask, .answer 1 (.ok ⟨⟨1⟩, none⟩), .take, .signal .background, .signal (.expire 1), .take,
    .command .pause, .take, .command (.setIndex 1)]

/-- The encore takes the place of the song in order to be paused, and others see no change of state. -/
theorem index_keeps_intent_leafed :
    let s := (obliged.launch .zero).after leafed
    let s' := s.act .take
    s.world.engine.mode = .paused .song ⟨1⟩ ∧ s.world.engine.cursor.position = some 0 ∧
    s'.world.engine.cursor.position = some 1 ∧
    s'.world.engine.mode = .preparing .encore ⟨2, false, none, .paused⟩ ∧
    s'.world.engine.mode.reported = s.world.engine.mode.reported ∧
    s.outputCalls [.take] = [.unload ⟨1⟩] := by
  have next : ((obliged.launch .zero).after leafed).next? = some (.setIndex 1) := by rfl
  have mode : ((obliged.launch .zero).after leafed).world.engine.mode = .paused .song ⟨1⟩ := by rfl
  have live : ((obliged.launch .zero).after leafed).world.engine.live = some ⟨1⟩ := by rfl
  have started : ((obliged.launch .zero).after leafed).world.engine.lastRequest = 1 := by rfl
  have items : ((obliged.launch .zero).after leafed).world.engine.cursor.items[1]? =
      some .encore := by rfl
  have moves : ¬ ((obliged.launch .zero).after leafed).world.engine.Unmoved .encore := by decide
  obtain ⟨item, there, cursor, _, reported, _, changes⟩ :=
    (index_keeps_intent obliged_blank .zero leafed next).2 (by decide)
  cases items.symm.trans there
  have changes := changes moves
  have preparing := changes.mode
  have calls := changes.calls
  rw [started, mode] at preparing
  rw [live] at calls
  exact ⟨mode, by rfl, congrArg Cursor.position cursor, preparing, reported, calls⟩

end Core
end MediaPlayback
