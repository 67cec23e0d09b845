import MediaPlayback.Proofs.Engine.Catalog
import MediaPlayback.Proofs.Outlook

/-! What is known about items stays known for the whole of a run. The engine adds to it and so does a
transfer that is resolved; whoever else may add to it takes nothing away. -/

namespace MediaPlayback.Core

variable {σ L : Type}

@[simp] theorem post_catalog (c : Core σ L) (m : Message) :
    (c.post m).world.catalog = c.world.catalog := by
  unfold post
  split <;> rfl

@[simp] theorem collect_catalog (c : Core σ L) : c.collect.world.catalog = c.world.catalog := by
  rw [collect_eq]

@[simp] theorem beginFlight_catalog (c : Core σ L) :
    c.beginFlight.world.catalog = c.world.catalog := by
  unfold beginFlight
  split
  · rfl
  · split <;> rfl

variable [Surroundings σ L]

@[simp] theorem postWeakly_catalog (c : Core σ L) (m : Message) :
    (c.postWeakly m).world.catalog = c.world.catalog := by
  unfold postWeakly
  split
  · exact c.post_catalog m
  · rfl

@[simp] theorem finish_catalog (c : Core σ L) : c.finish.world.catalog = c.world.catalog := by
  unfold finish
  rw [collect_catalog]
  exact c.world.teardown_catalog

@[simp] theorem land_catalog (c : Core σ L) (request : Nat)
    (result : Except HostError PreparedSession) :
    (c.land request result).world.catalog = c.world.catalog := by
  unfold land
  split
  · rfl
  · dsimp only
    split
    · exact post_catalog _ _
    · cases result <;> rfl

@[simp] theorem beat_catalog (c : Core σ L) : c.beat.world.catalog = c.world.catalog := by
  unfold beat
  split
  · rfl
  · split
    · exact post_catalog _ _
    · rfl

@[simp] theorem declare_catalog (c : Core σ L) (event : LifecycleEvent) :
    (c.declare event).world.catalog = c.world.catalog := by
  have one : ∀ (c : Core σ L) (told : Told (Follower L) Command),
      (recordFollower event c told).world.catalog = c.world.catalog := by
    intro c told
    unfold recordFollower
    split
    · exact c.postWeakly_catalog _
    · rw [collect_catalog]
      exact World.recordTold_catalog _ _ _
  have fold : ∀ (told : List (Told (Follower L) Command)) (c : Core σ L),
      (told.foldl (recordFollower event) c).world.catalog = c.world.catalog := by
    intro told
    induction told with
    | nil => exact fun _ => rfl
    | cons first rest ih => exact fun c => (ih _).trans (one c first)
  unfold declare
  dsimp only
  split <;> exact fold _ _

@[simp] theorem absorb_catalog (c : Core σ L) (outcome : Signal.Outcome) :
    (c.absorb outcome).world.catalog = c.world.catalog := by
  have logged : ∀ (entries : List (LogLevel × String)) (w : World σ L),
      (w.logSignal entries).catalog = w.catalog := by
    intro entries
    induction entries with
    | nil => exact fun _ => rfl
    | cons first rest ih => exact fun w => ih _
  unfold absorb
  dsimp only
  split
  · exact logged outcome.log c.world
  · rw [declare_catalog]
    exact logged outcome.log c.world

@[simp] theorem attach_catalog (c : Core σ L) : c.attach.2.world.catalog = c.world.catalog := by
  have read : c.readAppState.world.catalog = c.world.catalog := by
    unfold readAppState
    obtain ⟨result, outside, h⟩ := c.world.exists_call .appState
    rw [h]
    cases result with
    | error => rfl
    | ok state =>
      dsimp only
      split
      · rfl
      · exact absorb_catalog _ _
  rw [← read]
  unfold attach subscribeAppState
  obtain ⟨result, outside, h⟩ := c.readAppState.world.exists_call .subscribeAppState
  rw [h]
  cases result <;> rfl

theorem resolveItem_extends (c : Core σ L) (transferId : String) :
    c.world.catalog.Extends (c.resolveItem transferId).2.world.catalog := by
  have resolved : c.world.catalog.Extends (c.world.resolveItem transferId).2.catalog := by
    unfold World.resolveItem
    obtain ⟨result, outside, h⟩ := c.world.exists_call (.resolve transferId)
    rw [h]
    cases result with
    | error => exact .refl _
    | ok attachment =>
      dsimp only
      obtain ⟨result, outside', h'⟩ := World.exists_call { c.world with
        outside, trace := .called (.resolve transferId) (.ok attachment) :: c.world.trace }
        (.conversationFor transferId)
      rw [h']
      cases result <;> exact .ofAttachment _ transferId attachment _
  unfold resolveItem
  rcases h : c.world.resolveItem transferId with ⟨_ | item, w⟩ <;> rw [h] at resolved <;>
    exact resolved

/-- What the engine learns from the message that it takes. -/
def learns? (c : Core σ L) : Action σ L → Option (Item × Duration)
  | .take => c.next?.bind c.world.engine.learns?
  | _ => none

theorem take_catalog (c : Core σ L) : (c.act .take).world.catalog =
    (c.learns? .take).elim c.world.catalog fun found =>
      c.world.catalog.recordDuration found.1 found.2 := by
  unfold learns?
  cases next : c.next? with
  | none =>
    rw [act_take_nothing next]
    rfl
  | some m =>
    by_cases ends : m = .shutdown
    · subst ends
      obtain ⟨running, rest, mailbox⟩ := mailbox_of_next next
      rw [act, if_pos running, takeMessage, mailbox]
      exact finish_catalog _
    · obtain ⟨_, _, world⟩ := act_take next ends
      rw [world]
      exact c.world.turn_catalog m

/-- What was known before an action is known after it. That goes for a change of circumstances only if
it takes nothing away. -/
theorem act_extends (c : Core σ L) (action : Action σ L)
    (keeps : ∀ circumstances, action = .change circumstances →
      c.world.catalog.Extends circumstances.catalog) :
    c.world.catalog.Extends (c.act action).world.catalog := by
  have same : ∀ {c' : Core σ L}, c'.world.catalog = c.world.catalog →
      c.world.catalog.Extends c'.world.catalog := fun same => .of_durations (by rw [same])
  cases action with
  | command | output | focus => exact same (c.postWeakly_catalog _)
  | take =>
    rw [take_catalog]
    cases c.learns? .take with
    | none => exact .refl _
    | some found => exact .recordDuration _ found.1 found.2
  | close =>
    rw [act]
    split
    · unfold endUnlessHeld
      split
      · exact .refl _
      · exact same c.finish_catalog
    · exact .refl _
  | ask => exact same c.beginFlight_catalog
  | answer request result =>
    rw [act]
    split
    · exact same (c.land_catalog request result)
    · exact .refl _
  | beat => exact same c.beat_catalog
  | signal => exact same (c.absorb_catalog _)
  | attach => exact same c.attach_catalog
  | resolve transferId => exact c.resolveItem_extends transferId
  | log => exact .refl _
  | change circumstances => exact keeps circumstances rfl

/-- Whenever circumstances change in a run, what is known stays known. -/
def Remembers (c : Core σ L) (actions : List (Action σ L)) : Prop :=
  ∀ earlier circumstances later, actions = earlier ++ .change circumstances :: later →
    (c.after earlier).world.catalog.Extends circumstances.catalog

theorem after_extends (c : Core σ L) (actions : List (Action σ L)) (remembers : c.Remembers actions) :
    c.world.catalog.Extends (c.after actions).world.catalog := by
  induction actions generalizing c with
  | nil => exact .refl _
  | cons action rest ih =>
    have first : c.world.catalog.Extends (c.act action).world.catalog :=
      c.act_extends action fun circumstances change =>
        remembers [] circumstances rest (by rw [change]; rfl)
    refine first.trans (ih (c.act action) fun earlier circumstances later split => ?_)
    exact remembers (action :: earlier) circumstances later (by rw [split]; rfl)

end MediaPlayback.Core
