import MediaPlayback.Proofs.Invariant

/-! What happens in a run. The trace of a core only grows, so what happened since a moment is what the
history has got behind what it had then. -/

namespace MediaPlayback.Core

variable {σ L : Type} [Surroundings σ L]

/-- What happens in a run, in order. -/
def story (c : Core σ L) (actions : List (Action σ L)) : List (Effect L) :=
  (c.after actions).world.history.drop c.world.history.length

@[simp] theorem story_nil (c : Core σ L) : c.story [] = [] := List.drop_length

theorem after_append (c : Core σ L) (first second : List (Action σ L)) :
    c.after (first ++ second) = (c.after first).after second := List.foldl_append

variable {c : Core σ L}

theorem Sound.act_grows (sound : c.Sound) (action : Action σ L) :
    ∃ effects, (c.act action).world.trace = effects ++ c.world.trace := by
  have moves := act_moves sound.settled action
  generalize c.act action = c' at moves ⊢
  cases moves with
  | stays _ _ stays =>
    obtain ⟨effects, trace, _⟩ := stays.mutters.trace
    exact ⟨effects, trace⟩
  | @turns m =>
    obtain ⟨_, _, effects, trace, _⟩ := c.world.turn_leads m sound.coherent
    exact ⟨effects, trace⟩
  | ends _ _ _ _ _ _ _ leads =>
    obtain ⟨effects, trace, _⟩ := leads
    exact ⟨effects, trace⟩
  | delivers => exact ⟨[], rfl⟩
  | lapses => exact ⟨[], rfl⟩
  | refuses => exact ⟨[_], rfl⟩

theorem Sound.after_grows (sound : c.Sound) (actions : List (Action σ L)) :
    ∃ effects, (c.after actions).world.trace = effects ++ c.world.trace := by
  induction actions generalizing c with
  | nil => exact ⟨[], rfl⟩
  | cons action rest ih =>
    obtain ⟨early, now⟩ := sound.act_grows action
    obtain ⟨late, later⟩ := ih (sound.act action)
    exact ⟨late ++ early, by rw [after_cons, later, now, List.append_assoc]⟩

/-- The trace after a run is the trace before it and what happened in the run. -/
theorem Sound.trace_after (sound : c.Sound) (actions : List (Action σ L)) :
    (c.after actions).world.trace = (c.story actions).reverse ++ c.world.trace := by
  obtain ⟨effects, grown⟩ := sound.after_grows actions
  have told : c.story actions = effects.reverse := by
    rw [story, World.history, World.history, grown, List.reverse_append]
    exact List.drop_left
  rw [told, List.reverse_reverse, grown]

/-- What happens in an action is what the trace has got by it. -/
theorem Sound.story_act (sound : c.Sound) {action : Action σ L} {effects : List (Effect L)}
    (grown : (c.act action).world.trace = effects ++ c.world.trace) :
    c.story [action] = effects.reverse := by
  have whole := sound.trace_after [action]
  rw [after_cons, after_nil, grown] at whole
  rw [List.append_cancel_right whole, List.reverse_reverse]

theorem Sound.story_append (sound : c.Sound) (first second : List (Action σ L)) :
    c.story (first ++ second) = c.story first ++ (c.after first).story second := by
  have whole := sound.trace_after (first ++ second)
  rw [after_append, (sound.after first).trace_after second, sound.trace_after first,
    ← List.append_assoc, ← List.reverse_append] at whole
  exact (List.reverse_inj.mp (List.append_cancel_right whole)).symm

theorem Sound.story_cons (sound : c.Sound) (action : Action σ L) (rest : List (Action σ L)) :
    c.story (action :: rest) = c.story [action] ++ (c.act action).story rest :=
  sound.story_append [action] rest

/-- What is read off the trace after a run was read before it, or it is read off the run. -/
theorem Sound.filterMap_after {α : Type} (sound : c.Sound) (actions : List (Action σ L))
    (f : Effect L → Option α) :
    (c.after actions).world.trace.filterMap f =
      ((c.story actions).filterMap f).reverse ++ c.world.trace.filterMap f := by
  rw [sound.trace_after, List.filterMap_append, List.filterMap_reverse]

/-- What an action adds to what is read off the trace is read off what happens in it. -/
theorem Sound.filterMap_story {α : Type} (sound : c.Sound) (action : Action σ L)
    (f : Effect L → Option α) {more : List α}
    (added : (c.act action).world.trace.filterMap f = more ++ c.world.trace.filterMap f) :
    (c.story [action]).filterMap f = more.reverse := by
  have whole := sound.filterMap_after [action] f
  rw [after_cons, after_nil, added] at whole
  rw [List.append_cancel_right whole, List.reverse_reverse]

end MediaPlayback.Core
