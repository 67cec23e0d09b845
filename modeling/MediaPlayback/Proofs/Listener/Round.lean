import MediaPlayback.Engine.World

/-! A round of telling listeners something, whatever they do meanwhile: they may break off, and they may
add and remove listeners, themselves included. Every listener that was there when the round began is
called once and in its turn, those that broke off are reported and nobody else is, and the registrations
are then the earlier ones without those that were taken back, with those that were added behind them. -/

namespace MediaPlayback

/-- A listener that was called, and what it did. -/
structure Called (L P : Type) where
  id : ListenerId
  listener : L
  reaction : Reaction L P

/-- What is known of a call when it is over. -/
def Called.told {L P : Type} (c : Called L P) : Told L P :=
  ⟨c.id, c.listener, c.reaction.posts, c.reaction.breakdown⟩

/-- The failure that is reported of a listener that broke off during `operation`. -/
def Told.failure? {L P : Type} (operation : String) (told : Told L P) : Option PlaybackError :=
  told.breakdown.map fun breakdown =>
    .listenerFailure told.id.value.toNat operation breakdown.message

/-- The registrations that edits take back. -/
def Edit.removals {L : Type} (edits : List (Edit L)) : List ListenerId :=
  edits.filterMap fun
    | .add _ => none
    | .remove id => some id

/-- The registrations that edits make and do not take back again, where `next` is the number of the
first one. -/
def Edit.additions {L : Type} (next : UInt64) : List (Edit L) → List (ListenerId × L)
  | [] => []
  | .add listener :: edits =>
    if ⟨next⟩ ∈ removals edits then additions (next + 1) edits
    else (⟨next⟩, listener) :: additions (next + 1) edits
  | .remove _ :: edits => additions next edits

namespace Registry

variable {L P σ : Type} {react : Registry L → ListenerId → L → σ → Reaction L P × σ}

/-- Listeners that do what `react` says, and each add their call to a list outside. -/
def noting (react : Registry L → ListenerId → L → σ → Reaction L P × σ) (r : Registry L)
    (id : ListenerId) (listener : L) (outside : σ × List (Called L P)) :
    Reaction L P × σ × List (Called L P) :=
  let (reaction, after) := react r id listener outside.1
  (reaction, after, outside.2 ++ [⟨id, listener, reaction⟩])

/-- The calls of a round, as the listeners noted them. -/
def calls (r : Registry L) (react : Registry L → ListenerId → L → σ → Reaction L P × σ)
    (outside : σ) : List (Called L P) :=
  (r.notify (noting react) (outside, [])).2.2.2

/-- The failures that a round reports. -/
def failures (r : Registry L) (operation : String)
    (react : Registry L → ListenerId → L → σ → Reaction L P × σ) (outside : σ) :
    List PlaybackError :=
  (r.notify react outside).1.filterMap (·.failure? operation)

/-- To note the calls changes nothing else. The calls are those of the whole list in order, and what
they did to the registrations was done in that order too. -/
theorem tell_noting (react : Registry L → ListenerId → L → σ → Reaction L P × σ)
    (entries : List (ListenerId × L)) (r : Registry L) (outside : σ) (before : List (Called L P)) :
    ∃ calls : List (Called L P),
      tell (noting react) entries r (outside, before) =
        ((tell react entries r outside).1, (tell react entries r outside).2.1,
          (tell react entries r outside).2.2, before ++ calls) ∧
      calls.map (fun c => (c.id, c.listener)) = entries ∧
      calls.map Called.told = (tell react entries r outside).1 ∧
      (calls.flatMap (·.reaction.edits)).foldl edit r = (tell react entries r outside).2.1 := by
  induction entries generalizing r outside before with
  | nil => exact ⟨[], by rw [tell, tell, List.append_nil], rfl, rfl, rfl⟩
  | cons entry rest ih =>
    obtain ⟨id, listener⟩ := entry
    rcases answer : react r id listener outside with ⟨reaction, after⟩
    obtain ⟨calls, noted, turns, told, edited⟩ :=
      ih (reaction.edits.foldl edit r) after (before ++ [⟨id, listener, reaction⟩])
    refine ⟨⟨id, listener, reaction⟩ :: calls, ?_, ?_, ?_, ?_⟩
    · simp only [tell, noting, answer, noted, List.append_assoc, List.cons_append, List.nil_append]
    · rw [List.map_cons, turns]
    · rw [List.map_cons, told]
      simp only [tell, answer, Called.told]
    · rw [List.flatMap_cons, List.foldl_append, edited]
      simp only [tell, answer]

section Calls

variable (r : Registry L) (react : Registry L → ListenerId → L → σ → Reaction L P × σ) (outside : σ)

/-- A round in which the listeners note their calls is the same round. -/
theorem notify_noting : r.notify (noting react) (outside, []) =
    ((r.notify react outside).1, (r.notify react outside).2.1, (r.notify react outside).2.2,
      r.calls react outside) := by
  obtain ⟨calls, noted, -⟩ := tell_noting react r.entries r outside []
  rw [Registry.calls, notify, notify, noted]

/-- Who is registered when a round begins is called in it, once and in turn, and nobody else. -/
theorem calls_entries : (r.calls react outside).map (fun c => (c.id, c.listener)) = r.entries := by
  obtain ⟨calls, noted, turns, -, -⟩ := tell_noting react r.entries r outside []
  rw [Registry.calls, notify, noted]
  exact turns

theorem calls_told : (r.calls react outside).map Called.told = (r.notify react outside).1 := by
  obtain ⟨calls, noted, -, told, -⟩ := tell_noting react r.entries r outside []
  rw [Registry.calls, notify, noted]
  exact told

theorem calls_edits : ((r.calls react outside).flatMap (·.reaction.edits)).foldl edit r =
    (r.notify react outside).2.1 := by
  obtain ⟨calls, noted, -, -, edited⟩ := tell_noting react r.entries r outside []
  rw [Registry.calls, notify, noted]
  exact edited

/-- The failures of a round are those of the listeners that broke off. -/
theorem failures_eq (operation : String) : r.failures operation react outside =
    (r.calls react outside).filterMap fun c => c.reaction.breakdown.map fun breakdown =>
      .listenerFailure c.id.value.toNat operation breakdown.message := by
  rw [failures, ← calls_told, List.filterMap_map]
  rfl

end Calls

/-- What edits make of the registrations. -/
theorem entries_edits (r : Registry L) (edits : List (Edit L)) :
    (edits.foldl edit r).entries =
      r.entries.filter (fun entry => entry.1 ∉ Edit.removals edits) ++
        Edit.additions r.next edits := by
  induction edits generalizing r with
  | nil =>
    have whole : r.entries.filter (fun entry => entry.1 ∉ Edit.removals ([] : List (Edit L))) =
        r.entries := List.filter_eq_self.mpr fun _ _ => by simp [Edit.removals]
    exact (congrArg (· ++ []) whole).trans (List.append_nil _) |>.symm
  | cons first rest ih =>
    rw [List.foldl_cons, ih]
    cases first with
    | add listener =>
      have removals : Edit.removals (.add listener :: rest) = Edit.removals rest := rfl
      rw [removals, Edit.additions]
      by_cases taken : (⟨r.next⟩ : ListenerId) ∈ Edit.removals rest <;>
        simp [edit, add, taken]
    | remove id =>
      have removals : Edit.removals (.remove id :: rest) = id :: Edit.removals rest := rfl
      rw [removals, Edit.additions]
      simp only [edit, remove, List.filter_filter, List.mem_cons, not_or, Bool.decide_and,
        Bool.and_comm]

end Registry

namespace World

variable {σ L : Type}

/-- The entry that the log gets for a listener that failed. -/
def failureEntry (failure : PlaybackError) : LogRecord where
  level := .warn
  target := LogSource.listeners.target
  message := "Listener failed; continuing fan-out"
  fields := [("error", failure.message)]

/-- What a round leaves in the trace of a listener that was told something. -/
def effectsOf (notice : Notice) (told : Told L Command) : List (Effect L) :=
  .notified told.id told.listener notice ::
    (told.failure? notice.operation).toList.map fun failure => .logged (failureEntry failure)

theorem recordTold_history (notice : Notice) (w : World σ L) (told : Told L Command) :
    (recordTold notice w told).history = w.history ++ effectsOf notice told := by
  unfold recordTold effectsOf Told.failure?
  cases told.breakdown with
  | none => simp [history, record]
  | some => simp [history, record, log, logWithin, failureEntry]

variable [Surroundings σ L]

/-- The calls of a round in which the listeners of a world are told something. -/
def callsOf (w : World σ L) (notice : Notice) : List (Called L Command) :=
  w.listeners.calls
    (fun r id listener outside => Surroundings.react outside r.next id listener notice) w.outside

/-- Each call of a round is recorded in its turn, with its failure behind it, and nothing else is. -/
theorem tell_history (w : World σ L) (notice : Notice) : (w.tell notice).history =
    w.history ++ (w.callsOf notice).flatMap fun call => effectsOf notice call.told := by
  have fold : ∀ (told : List (Told L Command)) (w : World σ L),
      (told.foldl (recordTold notice) w).history =
        w.history ++ told.flatMap (effectsOf notice) := by
    intro told
    induction told with
    | nil => exact fun w => (List.append_nil _).symm
    | cons first rest ih =>
      intro w
      rw [List.foldl_cons, ih, recordTold_history, List.flatMap_cons, List.append_assoc]
  rw [← List.flatMap_map, callsOf, Registry.calls_told]
  exact fold _ _

end World
end MediaPlayback
