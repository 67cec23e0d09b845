import MediaPlayback.Proofs.Track

/-! Of two items for one file, the cursor may be on one while the other is active. What becomes known
of the active item is then not known of the cursor's entry. The two are one and the same item until a
message hands the engine an item or a playlist that has another one for the same file, or points the
cursor at a second entry for it. -/

namespace MediaPlayback

namespace Cursor

/-- The current entry is this very item. -/
def At (c : Cursor) (item : Item) : Prop := ∃ entry, c.currentItem? = some entry ∧ entry.ref = item.ref

/-- The first entry for a track is another item than this one. -/
def Substitutes (c : Cursor) (item : Item) : Prop :=
  ∃ entry ∈ c.items.find? (·.Same item), entry.ref ≠ item.ref

instance (c : Cursor) (item : Item) : Decidable (c.Substitutes item) :=
  inferInstanceAs (Decidable (∃ entry ∈ _, _))

variable {c : Cursor} {item : Item} {index : Nat}

theorem At.of_current (current : c.currentItem? = some item) : c.At item := ⟨item, current, rfl⟩

/-- The first entry for a track is where its index is. -/
theorem find?_items (c : Cursor) (item : Item) : c.items.find? (·.Same item) =
    (c.indexOf? item).bind fun index => { c with position := some index }.currentItem? := by
  rw [items, List.find?_filterMap, List.find?_eq_bind_findIdx?_getElem?, Option.bind_assoc]
  rfl

theorem not_substitutes_of_absent (absent : c.indexOf? item = none) : ¬ c.Substitutes item := by
  rintro ⟨entry, found, _⟩
  rw [find?_items, absent] at found
  contradiction

/-- The cursor that was moved to a track is at an item unless it has another one for it. -/
theorem at_iff_of_indexOf (found : c.indexOf? item = some index) :
    { c with position := some index }.At item ↔ ¬ c.Substitutes item := by
  have entries : c.items.find? (·.Same item) = { c with position := some index }.currentItem? := by
    rw [find?_items, found, Option.bind_some]
  obtain ⟨c', moved, entry, current, _⟩ := setIndex_of_indexOf found
  have here : { c with position := some index }.currentItem? = some entry := by
    unfold setIndex at moved
    split at moved <;> cases moved
    exact current
  constructor
  · rintro ⟨other, there, same⟩ ⟨entry', first, differs⟩
    rw [entries, there] at first
    cases first
    exact differs same
  · intro own
    have same : entry.ref = item.ref :=
      Decidable.byContradiction fun differs => own ⟨entry, entries.trans here, differs⟩
    exact ⟨entry, here, same⟩

end Cursor

/-- Whether a message may leave the cursor on another item than the active one. -/
def Message.mayDisplace : Message → Bool
  | .playItem _ | .playInPlaylist .. | .setPlaylist _ | .setIndex _ => true
  | _ => false

namespace Engine

/-- The cursor's entry is the active item itself, and not only one for the same file. -/
def InPlace (e : Engine) : Prop := ∀ active, e.mode.item? = some active → e.cursor.At active

/-- A message leaves the cursor on another item than the active one: it hands over an item that the
playlist has another one for, or a playlist that has another one for the active item, or it points at
such an entry of the playlist. Where shuffle draws an order, the words decide which entry comes
first. -/
def Displaces (e : Engine) (words : Entropy) : Message → Prop
  | .playItem item => e.cursor.Substitutes item
  | .playInPlaylist item playlist =>
    e.mode.item?.any (·.Same item) = false ∧ playlist.contains item ∧
      (e.withPlaylist playlist words).cursor.Substitutes item
  | .setPlaylist playlist =>
    ∃ active ∈ e.mode.item?, (e.withPlaylist playlist words).cursor.Substitutes active
  | .setIndex index =>
    ∃ active ∈ e.mode.item?, ∃ entry ∈ e.cursor.items[index]?,
      entry.Same active ∧ entry.ref ≠ active.ref
  | _ => False

instance (e : Engine) (words : Entropy) : DecidablePred (e.Displaces words)
  | .playItem item => inferInstanceAs (Decidable (e.cursor.Substitutes item))
  | .playInPlaylist .. => inferInstanceAs (Decidable (_ ∧ _ ∧ _))
  | .setPlaylist _ => inferInstanceAs (Decidable (∃ active ∈ _, _))
  | .setIndex _ => inferInstanceAs (Decidable (∃ active ∈ _, ∃ entry ∈ _, _))
  | .play | .pause | .toggle | .forward | .backward | .reset | .seek _ | .setRepeatMode _
  | .setShuffle _ | .snapshot | .progress | .prepared .. | .output _ | .focus _ | .lifecycle _
  | .tick | .shutdown => .isFalse id

variable {e e' : Engine} {item : Item} {session : SessionId} {index : Nat}

theorem InPlace.keeps (place : e.InPlace) (cursor : e'.cursor = e.cursor)
    (active : ∀ item, e'.mode.item? = some item → e.mode.item? = some item) : e'.InPlace := by
  intro item now
  rw [cursor]
  exact place item (active item now)

theorem InPlace.of_idle (idle : e.mode = .idle) : e.InPlace := by
  intro item active
  simp [idle, Mode.item?] at active

/-- One item is active, and the question is whether the cursor is at it. -/
theorem inPlace_iff (active : e.mode.item? = some item) : e.InPlace ↔ e.cursor.At item := by
  refine ⟨fun place => place item active, fun there other now => ?_⟩
  cases active.symm.trans now
  exact there

theorem InPlace.of_active (place : e.InPlace) (active : e.mode.item? = some item)
    (cursor : e'.cursor = e.cursor) (still : e'.mode.item? = some item) : e'.InPlace :=
  place.keeps cursor fun _ now => active.trans (still.symm.trans now)

theorem InPlace.navigated (e : Engine) (ahead : Bool) : (e.navigated ahead).InPlace := by
  obtain ⟨next, moved⟩ : ∃ next,
      (if ahead then e.cursor.forward else e.cursor.backward) = e.cursor.moveTo next := by
    cases ahead with
    | true => exact ⟨_, rfl⟩
    | false => exact ⟨_, rfl⟩
  unfold Engine.navigated
  rw [moved]
  dsimp only
  split
  case isTrue idle => exact .of_idle idle
  case isFalse =>
    split
    case h_1 item there => exact (inPlace_iff rfl).mpr (.of_current (Cursor.moveTo_currentItem there))
    case h_2 => exact .of_idle rfl

theorem Begins.inPlace (begins : e.Begins item session e') (there : e.cursor.At item) :
    e'.InPlace := by
  cases begins with
  | denied | failed => exact .of_idle rfl
  | played => exact (inPlace_iff rfl).mpr there

theorem Resumes.inPlace (resumes : e.Resumes item session e') (there : e.cursor.At item) :
    e'.InPlace := by
  cases resumes with
  | denied | played => exact (inPlace_iff rfl).mpr there
  | failed => exact .of_idle rfl

theorem InPlace.resumes (place : e.InPlace) {focusPaused : Bool}
    (paused : e.mode = .paused item session)
    (resumes : Resumes { e with focusPaused } item session e') : e'.InPlace :=
  resumes.inPlace (place item (congrArg Mode.item? paused))

theorem Pauses.inPlace (pauses : e.Pauses e') (place : e.InPlace) : e'.InPlace := by
  cases pauses with
  | paused playing => exact place.of_active (congrArg Mode.item? playing) rfl rfl
  | failed => exact .of_idle rfl
  | held preparing => exact place.of_active (congrArg Mode.item? preparing) rfl rfl
  | kept => exact place

theorem Plays.inPlace (plays : e.Plays e') (place : e.InPlace) : e'.InPlace := by
  cases plays with
  | resumed paused resumes => exact place.resumes paused resumes
  | awaited preparing => exact place.of_active (congrArg Mode.item? preparing) rfl rfl
  | started _ current => exact (inPlace_iff rfl).mpr (.of_current current)
  | nothing => exact place.keeps rfl fun _ => id
  | playing => exact place.keeps rfl fun _ => id

/-- Most messages keep the active item in place, provided that an awaited answer is about that
item. -/
theorem Handles.inPlace {m : Message} (handles : e.Handles m e') (plain : m.mayDisplace = false)
    (track : e.OnTrack) (place : e.InPlace)
    (answers : ∀ {id item result active request}, m = .prepared id item result →
      e.mode = .preparing active request → request.id = id → item = active) : e'.InPlace := by
  cases handles with
  | play plays | togglePlay _ plays => exact plays.inPlace place
  | pause pauses | togglePause _ pauses => exact pauses.inPlace (place.keeps rfl fun _ => id)
  | forward => exact .navigated e true
  | backward => exact .navigated e false
  | advanced => exact .navigated e true
  | seekAwaited preparing => exact place.of_active (congrArg Mode.item? preparing) rfl rfl
  | seekStarted _ current => exact (inPlace_iff rfl).mpr (.of_current current)
  | setRepeatMode => exact place
  | @setShuffle shuffled words =>
    intro item now
    obtain ⟨entry, current, same⟩ := place item now
    exact ⟨entry, (track.cursor.setShuffled_currentItem shuffled words).trans current, same⟩
  -- The item of an awaited answer becomes the active one.
  | preparedHeld preparing current =>
    cases answers rfl preparing current
    exact place.of_active (congrArg Mode.item? preparing) rfl rfl
  | preparedBegun preparing current _ begins =>
    cases answers rfl preparing current
    exact begins.inPlace (place _ (congrArg Mode.item? preparing))
  | replayed _ active => exact place.of_active active rfl rfl
  | recreated _ active => exact (inPlace_iff rfl).mpr (place _ active)
  | lostPlaying _ pauses =>
    have unpaused : { e with focusPaused := false }.InPlace := place.keeps rfl fun _ => id
    exact (pauses.inPlace unpaused).keeps rfl fun _ => id
  | lostTransientPlaying _ pauses => exact (pauses.inPlace place).keeps rfl fun _ => id
  | gainedPaused _ paused resumes => exact place.resumes paused resumes
  | reset | finished | preparedFailed => exact .of_idle rfl
  | playItemInside | playItemOutside | reselected | reselectedAwaited | reselectedPlaying | chosen
  | notChosen | setPlaylist | setPlaylistAround | setPlaylistWithout | indexOutside | indexOnly
  | indexStarted => contradiction
  | seekLive | seekNothing | snapshot | progress | preparedLate | outputStale | outputFailed | lost
  | lostTransient | gained | background | foreground | tick | shutdown =>
    exact place.keeps rfl fun _ => id

theorem pointed_of_found (found : e.cursor.indexOf? item = some index) :
    e.pointed index = { e with cursor := { e.cursor with position := some index } } := by
  have inside : index < e.cursor.length := (List.findIdx?_eq_some_iff_getElem.mp found).1
  simp [pointed, Cursor.setIndex, inside]

theorem Handles.inPlace_playItem (handles : e.Handles (.playItem item) e') (words : Entropy) :
    e'.InPlace ↔ ¬ e.Displaces words (.playItem item) := by
  cases handles with
  | playItemInside found =>
    rw [pointed_of_found found]
    exact (inPlace_iff rfl).trans (Cursor.at_iff_of_indexOf found)
  | playItemOutside catalog drawn absent =>
    have current := e.withSingle_currentItem catalog item drawn
    exact iff_of_true ((inPlace_iff rfl).mpr (.of_current current))
      (Cursor.not_substitutes_of_absent absent)

theorem Handles.inPlace_setIndex (handles : e.Handles (.setIndex index) e') (track : e.OnTrack)
    (place : e.InPlace) (words : Entropy) : e'.InPlace ↔ ¬ e.Displaces words (.setIndex index) := by
  have moved : ∀ {cursor : Cursor}, e.cursor.setIndex index = .ok cursor →
      cursor.currentItem? = e.cursor.items[index]? := by
    intro cursor inside
    unfold Cursor.setIndex at inside
    split at inside <;> cases inside
    exact track.cursor.currentItem?_at index
  cases handles with
  | indexOutside outside =>
    refine iff_of_true place ?_
    rintro ⟨active, _, entry, there, _⟩
    unfold Cursor.setIndex at outside
    split at outside
    case isTrue => contradiction
    case isFalse beyond =>
      rw [track.cursor.getElem?_items, List.getElem?_eq_none (Nat.le_of_not_lt beyond)] at there
      contradiction
  | @indexOnly _ cursor inside quiet =>
    cases now : e.mode.item? with
    | none =>
      refine iff_of_true (fun active still => ?_) ?_
      · cases now.symm.trans still
      · rintro ⟨active, still, _⟩
        cases now.symm.trans still
    | some active =>
      have still : { e with cursor }.mode.item? = some active := now
      obtain ⟨entry, there, same⟩ := (track.moves inside quiet).current active still
      have there : e.cursor.items[index]? = some entry := (moved inside).symm.trans there
      constructor
      · intro inPlace
        rintro ⟨active', now', entry', there', _, differs⟩
        cases now.symm.trans now'
        obtain ⟨entry'', current, own⟩ := inPlace active still
        cases there'.symm.trans ((moved inside).symm.trans current)
        exact differs own
      · intro own
        refine (inPlace_iff still).mpr ⟨entry, (moved inside).trans there, ?_⟩
        exact Decidable.byContradiction fun differs => own ⟨active, now, entry, there, same, differs⟩
  | @indexStarted _ cursor item inside current other active =>
    refine iff_of_true ((inPlace_iff rfl).mpr (.of_current current)) ?_
    rintro ⟨active, now, entry, there, same, _⟩
    obtain ⟨before, was, on⟩ := track.current active now
    rw [← moved inside, current] at there
    cases there
    rw [was] at other
    have again : before.Same item := on.trans same.symm
    simp [again] at other

/-- The active item that is chosen again stays where it is. -/
theorem Handles.inPlace_reselected {playlist : Playlist}
    (handles : e.Handles (.playInPlaylist item playlist) e')
    (again : e.mode.item?.any (·.Same item)) (place : e.InPlace) : e'.InPlace := by
  cases handles with
  | reselected paused _ resumes => exact resumes.inPlace (place _ (congrArg Mode.item? paused))
  | reselectedAwaited preparing => exact place.of_active (congrArg Mode.item? preparing) rfl rfl
  | reselectedPlaying => exact place
  | chosen _ other | notChosen other => rw [other] at again; contradiction

end Engine

namespace World

variable {σ L : Type} [Surroundings σ L]

theorem setPlaylist_inPlace (w : World σ L) (playlist : Playlist) :
    (w.setPlaylist playlist).engine.InPlace ↔
      ¬ w.engine.Displaces w.entropy (.setPlaylist playlist) := by
  unfold setPlaylist
  dsimp only
  split
  case h_1 inactive =>
    refine iff_of_true (fun active now => ?_) ?_
    · cases inactive.symm.trans now
    · rintro ⟨active, now, _⟩
      cases inactive.symm.trans now
  case h_2 item active =>
    have displaces : w.engine.Displaces w.entropy (.setPlaylist playlist) ↔
        (w.engine.withPlaylist playlist w.entropy).cursor.Substitutes item := by
      refine ⟨?_, fun other => ⟨item, active, other⟩⟩
      rintro ⟨active', now, other⟩
      cases active.symm.trans now
      exact other
    rw [displaces]
    split
    case h_1 index found =>
      rw [moveCursor_engine, Engine.pointed_of_found found]
      refine (Engine.inPlace_iff ?_).trans (Cursor.at_iff_of_indexOf found)
      exact active
    case h_2 absent =>
      rw [stop_engine]
      exact iff_of_true (.of_idle rfl) (Cursor.not_substitutes_of_absent absent)

theorem playInPlaylist_inPlace (w : World σ L) (item : Item) (playlist : Playlist)
    (place : w.engine.InPlace) : (w.playInPlaylist item playlist).engine.InPlace ↔
      ¬ w.engine.Displaces w.entropy (.playInPlaylist item playlist) := by
  by_cases again : w.engine.mode.item?.any (·.Same item)
  case pos =>
    refine iff_of_true ((w.playInPlaylist_engine item playlist).inPlace_reselected again place) ?_
    rintro ⟨other, _⟩
    rw [other] at again
    contradiction
  case neg =>
    unfold playInPlaylist
    rw [if_neg again]
    split
    case isTrue member =>
      have displaces : w.engine.Displaces w.entropy (.playInPlaylist item playlist) ↔
          (w.engine.withPlaylist playlist w.entropy).cursor.Substitutes item :=
        ⟨fun ⟨_, _, other⟩ => other, fun other => ⟨by simpa using again, member, other⟩⟩
      dsimp only
      rw [displaces, start_engine]
      refine (Engine.inPlace_iff rfl).trans ?_
      -- A playlist that holds the track has an index for it.
      have lawful := Cursor.Lawful.setPlaylist w.engine.cursor playlist w.entropy
      obtain ⟨index, found⟩ := lawful.exists_indexOf rfl member
      have found : (w.setPlaylistOf playlist).engine.cursor.indexOf? item = some index := found
      rw [found]
      dsimp only
      rw [moveCursor_engine, Engine.pointed_of_found found]
      exact Cursor.at_iff_of_indexOf found
    case isFalse absent =>
      refine iff_of_true place ?_
      rintro ⟨_, member, _⟩
      exact absent member

/-- The active item is in place after a message exactly if the message does not displace it. -/
theorem handle_inPlace (w : World σ L) (m : Message) (track : w.engine.OnTrack)
    (place : w.engine.InPlace)
    (answers : ∀ {id item result active request}, m = .prepared id item result →
      w.engine.mode = .preparing active request → request.id = id → item = active) :
    (w.handle m).engine.InPlace ↔ ¬ w.engine.Displaces w.entropy m := by
  have handles := w.handle_engine m
  cases m with
  | playItem item => exact handles.inPlace_playItem w.entropy
  | playInPlaylist item playlist => exact w.playInPlaylist_inPlace item playlist place
  | setPlaylist playlist => exact w.setPlaylist_inPlace playlist
  | setIndex index => exact handles.inPlace_setIndex track place w.entropy
  | _ => exact iff_of_true (handles.inPlace rfl track place answers) id

end World
end MediaPlayback
