import Mathlib.Data.List.Chain
import MediaPlayback.Proofs.Background
import MediaPlayback.Proofs.Engine.Conduct
import MediaPlayback.Proofs.Interruption

/-! What a host gives out. Audio focus and the wake lock change hands in turn: they are asked for only
while they are not held, and given back only while they are. A notification is taken away only if it
was shown since it was taken away last. Whether the engine holds a token is what the calls say, where
a request in vain does not count, and a token that was given back in vain counts as given back. -/

namespace MediaPlayback

namespace Token

/-- What a call with its answer did to a token. -/
def deedOf? (token : Token) (exchange : (call : HostCall) × call.Result) : Option Deed :=
  (exchange.1.deed? exchange.2).bind fun (about, deed) => if about = token then some deed else none

/-- What some calls did to a token, in order. -/
def deeds (token : Token) (calls : List ((call : HostCall) × call.Result)) : List Deed :=
  calls.filterMap token.deedOf?

/-- How a token changed hands in some calls. -/
def handovers (token : Token) (calls : List ((call : HostCall) × call.Result)) : List Deed :=
  (token.deeds calls).filter (· ≠ .refused)

/-- Whether a token is held after some calls: it was taken, and not given back since. -/
def heldAfter (token : Token) (calls : List ((call : HostCall) × call.Result)) : Bool :=
  (token.handovers calls).getLast? = some .taken

end Token

namespace Deed

/-- Orderly deeds with a token, from where it is held or not to where it is held or not. -/
inductive Orderly (token : Token) : Bool → List Deed → Bool → Prop where
  | nil (held : Bool) : Orderly token held [] held
  | cons {held held' : Bool} {deed : Deed} {rest : List Deed} (order : deed.InOrder token held)
    (later : Orderly token (deed.after held) rest held') : Orderly token held (deed :: rest) held'

variable {token : Token} {held held' held'' : Bool} {deed : Deed} {first second : List Deed}

theorem Orderly.append (before : Orderly token held first held')
    (after : Orderly token held' second held'') : Orderly token held (first ++ second) held'' := by
  induction before with
  | nil => exact after
  | cons order _ ih => exact .cons order (ih after)

/-- Between two parts of orderly deeds the token is held or not. -/
theorem Orderly.split (orderly : Orderly token held (first ++ second) held') :
    ∃ between, Orderly token held first between ∧ Orderly token between second held' := by
  induction first generalizing held with
  | nil => exact ⟨held, .nil held, orderly⟩
  | cons deed rest ih =>
    cases orderly with
    | cons order later =>
      obtain ⟨between, before, after⟩ := ih later
      exact ⟨between, .cons order before, after⟩

/-- The handover that led to a token being held or not. -/
def handover (held : Bool) : Deed := if held then .taken else .returned

/-- What is held in the end is what was taken last. -/
theorem Orderly.ends (orderly : Orderly token held first held') :
    (handover held :: first.filter (· ≠ .refused)).getLast? = some (handover held') := by
  induction orderly with
  | nil => rfl
  | @cons held held' deed rest order later ih =>
    cases deed with
    | refused => exact ih
    | taken | returned => exact List.getLast?_cons_cons.trans ih

/-- What is exclusive changes hands in turn. -/
theorem Orderly.alternate (orderly : Orderly token held first held') (exclusive : token.isExclusive) :
    (handover held :: first.filter (· ≠ .refused)).IsChain (· ≠ ·) := by
  induction orderly with
  | nil => exact .singleton _
  | @cons held held' deed rest order later ih =>
    cases deed with
    | refused => exact ih
    | taken =>
      obtain rfl := order.2 nofun exclusive
      exact .cons_cons nofun ih
    | returned =>
      obtain rfl := order.1 rfl
      exact .cons_cons nofun ih

end Deed

namespace Token

variable {token : Token} {held : Bool} {calls : List ((call : HostCall) × call.Result)}

/-- Where nothing was held at first, what is held is what was taken and not given back. -/
theorem heldAfter_eq (orderly : Deed.Orderly token false (token.deeds calls) held) :
    held = token.heldAfter calls := by
  have ends : (Deed.returned :: token.handovers calls).getLast? = some (Deed.handover held) :=
    orderly.ends
  unfold heldAfter
  cases handed : token.handovers calls with
  | nil =>
    rw [handed] at ends
    cases held with
    | false => rfl
    | true => contradiction
  | cons first rest =>
    rw [handed, List.getLast?_cons_cons] at ends
    rw [ends]
    cases held <;> rfl

/-- What is exclusive and not held at first is taken first, and then it changes hands in turn. -/
theorem handovers_alternate (orderly : Deed.Orderly token false (token.deeds calls) held)
    (exclusive : token.isExclusive) :
    (token.handovers calls).IsChain (· ≠ ·) ∧ (token.handovers calls).head? ≠ some .returned := by
  have chain : (Deed.returned :: token.handovers calls).IsChain (· ≠ ·) :=
    orderly.alternate exclusive
  refine ⟨chain.tail, fun first => ?_⟩
  obtain ⟨rest, handed⟩ := List.head?_eq_some_iff.mp first
  rw [handed] at chain
  exact (List.isChain_cons_cons.mp chain).1 rfl

theorem deeds_append (token : Token) (first second : List ((call : HostCall) × call.Result)) :
    token.deeds (first ++ second) = token.deeds first ++ token.deeds second :=
  List.filterMap_append

end Token

namespace Effect

variable {L : Type}

/-- What some effects did to a token, in order. -/
def deeds (token : Token) (effects : List (Effect L)) : List Deed :=
  token.deeds (effects.filterMap exchange?)

theorem deeds_append (token : Token) (first second : List (Effect L)) :
    deeds token (first ++ second) = deeds token first ++ deeds token second := by
  unfold deeds
  rw [List.filterMap_append, Token.deeds_append]

theorem deeds_singleton (token : Token) (effect : Effect L) : deeds token [effect] =
    (effect.deed?.bind fun (about, deed) => if about = token then some deed else none).toList := by
  cases effect with
  | called call result =>
    show [(⟨call, result⟩ : (call : HostCall) × call.Result)].filterMap token.deedOf? = _
    rw [Core.filterMap_cons_toList]
    exact List.append_nil _
  | _ => rfl

theorem deeds_of_deedless (token : Token) {loud : Bool} {effects : List (Effect L)}
    (deedless : effects.all (·.isDeedless loud)) : deeds token effects = [] := by
  induction effects with
  | nil => rfl
  | cons effect rest ih =>
    obtain ⟨first, later⟩ := Bool.and_eq_true_iff.mp deedless
    have none : effect.deed? = none :=
      Option.isNone_iff_eq_none.mp (Bool.and_eq_true_iff.mp first).1
    rw [← List.singleton_append, deeds_append, ih later, deeds_singleton, none]
    rfl

end Effect

/-- Whatever happens, what it does to the tokens is orderly. -/
theorem World.Conducts.orderly {σ L : Type} {w w' : World σ L} {loud : Bool}
    (conducts : Conducts loud w w') : ∃ effects, w'.trace = effects ++ w.trace ∧ ∀ token,
      Deed.Orderly token (w.engine.holds token) (Effect.deeds token effects.reverse)
        (w'.engine.holds token) := by
  induction conducts with
  | trans _ _ ih ih' =>
    obtain ⟨early, trace, before⟩ := ih
    obtain ⟨late, trace', after⟩ := ih'
    refine ⟨late ++ early, by rw [trace', trace, List.append_assoc], fun token => ?_⟩
    rw [List.reverse_append, Effect.deeds_append]
    exact (before token).append (after token)
  | deedless effects trace deedless holds =>
    refine ⟨effects, trace, fun token => ?_⟩
    rw [Effect.deeds_of_deedless token (by rwa [List.all_reverse]), holds]
    exact .nil _
  | @deals _ _ effect about deed deals trace order holds =>
    refine ⟨[effect], trace, fun token => ?_⟩
    rw [List.reverse_singleton, Effect.deeds_singleton, deals, holds]
    by_cases same : about = token
    · subst same
      simp only [Option.bind_some, if_true]
      exact .cons order (.nil _)
    · simp only [Option.bind_some, if_neg same, if_neg (Ne.symm same)]
      exact .nil _

namespace Core

variable {σ L : Type} {loud : Bool}

/-- From one core to another nothing happened but orderly steps. -/
def Conducts (loud : Bool) (c c' : Core σ L) : Prop := c.world.Conducts loud c'.world

theorem Conducts.refl (c : Core σ L) : c.Conducts loud c := World.Conducts.refl c.world

theorem Conducts.trans {c c' c'' : Core σ L} (first : c.Conducts loud c')
    (second : c'.Conducts loud c'') : c.Conducts loud c'' :=
  World.Conducts.trans first second

theorem post_conducts (c : Core σ L) (m : Message) : c.Conducts loud (c.post m) := by
  unfold post
  split <;> exact .refl _

theorem collect_conducts (c : Core σ L) : c.Conducts loud c.collect := by
  rw [collect_eq]
  exact .deedless [] rfl rfl rfl

theorem logSignal_conducts (w : World σ L) (entries : List (LogLevel × String)) :
    w.Conducts loud (w.logSignal entries) := by
  induction entries generalizing w with
  | nil => exact .refl w
  | cons entry rest ih => exact (w.log_conducts ..).trans (ih _)

theorem beginFlight_conducts (c : Core σ L) : c.Conducts loud c.beginFlight := by
  unfold beginFlight
  split
  · exact .refl _
  · split
    · exact .refl _
    · exact .deedless [_] rfl rfl rfl

variable [Surroundings σ L]

theorem postWeakly_conducts (c : Core σ L) (m : Message) : c.Conducts loud (c.postWeakly m) := by
  unfold postWeakly
  split
  · exact c.post_conducts m
  · exact .refl _

theorem recordFollower_conducts (event : LifecycleEvent) (c : Core σ L)
    (told : Told (Follower L) Command) : c.Conducts loud (recordFollower event c told) := by
  unfold recordFollower
  split
  case h_1 => exact c.postWeakly_conducts _
  case h_2 listener _ =>
    have noted : c.Conducts loud { c with
        world := World.recordTold event.notice c.world
          ⟨told.id, listener, told.posts, told.breakdown⟩ } := World.recordTold_conducts ..
    exact noted.trans (collect_conducts _)

theorem declare_conducts (c : Core σ L) (event : LifecycleEvent) :
    c.Conducts loud (c.declare event) := by
  have fold : ∀ (told : List (Told (Follower L) Command)) (c : Core σ L),
      c.Conducts loud (told.foldl (recordFollower event) c) := by
    intro told
    induction told with
    | nil => exact fun c => .refl _
    | cons first rest ih => exact fun c => (recordFollower_conducts event c first).trans (ih _)
  unfold declare
  dsimp only
  generalize c.followers.notify (follow event) c.world.outside = notified
  have told : c.Conducts loud (notified.1.foldl (recordFollower event) { c with
      followers := notified.2.1
      world := { c.world with outside := notified.2.2 } }) := by
    refine .trans ?_ (fold _ _)
    exact .deedless [] rfl rfl rfl
  split
  · exact told.trans (.deedless [_] rfl rfl rfl)
  · exact told

theorem absorb_conducts (c : Core σ L) (outcome : Signal.Outcome) :
    c.Conducts loud (c.absorb outcome) := by
  have logged : c.Conducts loud { c with
      signal := outcome.signal
      world := c.world.logSignal outcome.log } := logSignal_conducts _ _
  unfold absorb
  dsimp only
  split
  · exact logged
  · exact logged.trans (declare_conducts _ _)

theorem attach_conducts (c : Core σ L) : c.Conducts loud c.attach.2 := by
  have read : c.Conducts loud c.readAppState := by
    unfold readAppState
    obtain ⟨result, outside, h⟩ := c.world.exists_call .appState
    rw [h]
    cases result with
    | error => exact .deedless [_, _] rfl rfl rfl
    | ok state =>
      have asked : c.Conducts loud { c with world := { c.world with
          outside, trace := .called .appState (.ok state) :: c.world.trace } } :=
        .deedless [_] rfl rfl rfl
      dsimp only
      split
      · exact asked
      · exact asked.trans (absorb_conducts _ _)
  have subscribed : c.readAppState.Conducts loud c.readAppState.subscribeAppState.2 := by
    unfold subscribeAppState
    obtain ⟨result, outside, h⟩ := c.readAppState.world.exists_call .subscribeAppState
    rw [h]
    cases result with
    | ok => exact .deedless [_] rfl rfl rfl
    | error => exact .deedless [_, _] rfl rfl rfl
  exact read.trans subscribed

theorem resolveItem_conducts (c : Core σ L) (transferId : String) :
    c.Conducts loud (c.resolveItem transferId).2 := by
  have resolved : c.world.Conducts loud (c.world.resolveItem transferId).2 := by
    unfold World.resolveItem
    obtain ⟨result, outside, h⟩ := c.world.exists_call (.resolve transferId)
    rw [h]
    cases result with
    | error => exact .deedless [_] rfl rfl rfl
    | ok attachment =>
      dsimp only
      obtain ⟨result, outside', h'⟩ := World.exists_call { c.world with
        outside, trace := .called (.resolve transferId) (.ok attachment) :: c.world.trace }
        (.conversationFor transferId)
      rw [h']
      cases result with
      | ok => exact .deedless [_, _] rfl rfl rfl
      | error => exact .deedless [_, _, _] rfl rfl rfl
  unfold resolveItem
  rcases h : c.world.resolveItem transferId with ⟨_ | item, w⟩ <;> rw [h] at resolved
  · exact resolved
  · exact resolved.trans (w.log_conducts ..)

theorem beat_conducts (c : Core σ L) : c.Conducts loud c.beat := by
  unfold beat
  split
  case h_1 => exact .refl _
  case h_2 ticker _ =>
    split
    · have ticked : c.Conducts loud { c with
          ticker := some { ticker with next := ticker.next + ticker.period } } := .refl c
      exact ticked.trans (post_conducts _ _)
    · exact c.world.log_conducts ..

theorem land_conducts (c : Core σ L) (request : Nat) (result : Except HostError PreparedSession) :
    c.Conducts loud (c.land request result) := by
  unfold land
  split
  case h_1 => exact .refl _
  case h_2 flight _ =>
    have landed : c.Conducts loud { c with
        flights := c.flights.filter (·.task.request ≠ request) } := .refl c
    dsimp only
    split
    · exact landed.trans (post_conducts _ _)
    · cases result with
      | error => exact landed
      | ok prepared =>
        obtain ⟨result, outside, h⟩ := c.world.exists_call (.unload prepared.session)
        dsimp only
        rw [h]
        exact .deedless [_] rfl rfl rfl

theorem finish_conducts (c : Core σ L) : c.Conducts loud c.finish := by
  unfold finish
  dsimp only
  refine .trans ?_ (collect_conducts _)
  exact c.world.teardown_conducts

theorem takeMessage_conducts (c : Core σ L) : c.Conducts true c.takeMessage := by
  unfold takeMessage
  split
  case h_1 => exact .refl _
  case h_2 =>
    have noted : c.Conducts true { c with
        world := c.world.log .engine .trace "Engine command"
          [("command", Message.shutdown.name)] } :=
      c.world.log_conducts ..
    exact (noted.trans (finish_conducts _)).trans (World.reply_conducts _ _)
  case h_3 m rest _ _ =>
    have turned : c.Conducts true { c with mailbox := rest, world := c.world.turn m } :=
      c.world.turn_conducts m
    exact turned.trans (collect_conducts _)

/-- Whatever happens is made of orderly steps. -/
theorem act_conducts (c : Core σ L) (action : Action σ L) : c.Conducts true (c.act action) := by
  cases action with
  | command | output | focus => exact c.postWeakly_conducts _
  | take =>
    rw [act]
    split
    · exact c.takeMessage_conducts
    · exact .refl _
  | close =>
    rw [act]
    unfold endUnlessHeld
    split
    · split
      · exact .refl _
      · exact c.finish_conducts
    · exact .refl _
  | ask => exact c.beginFlight_conducts
  | answer request result =>
    rw [act]
    split
    · exact c.land_conducts request result
    · exact .refl _
  | beat => exact c.beat_conducts
  | signal => exact c.absorb_conducts _
  | attach => exact c.attach_conducts
  | resolve transferId => exact c.resolveItem_conducts transferId
  | log => exact .deedless [_] rfl rfl rfl
  | change => exact .deedless [] rfl rfl rfl

theorem after_conducts (c : Core σ L) (actions : List (Action σ L)) :
    c.Conducts true (c.after actions) := by
  induction actions generalizing c with
  | nil => exact .refl _
  | cons action rest ih => exact (c.act_conducts action).trans (ih _)

/-- The calls that were made since an engine was started, with their answers, in order. -/
def callLog (c : Core σ L) (interval : Duration) (actions : List (Action σ L)) :
    List ((call : HostCall) × call.Result) :=
  (((c.launch interval).after actions).world.history.drop c.world.history.length).filterMap
    Effect.exchange?

/-- An engine starts with nothing, and since then all it does with tokens is orderly. -/
theorem callLog_orderly (c : Core σ L) (interval : Duration) (actions : List (Action σ L))
    (token : Token) : Deed.Orderly token false (token.deeds (c.callLog interval actions))
      (((c.launch interval).after actions).world.engine.holds token) := by
  let born : World σ L := { c.world with engine := { backgrounded := c.signal.background } }
  have conducts : born.Conducts true ((c.launch interval).after actions).world :=
    born.startUp_conducts.trans ((c.launch interval).after_conducts actions)
  obtain ⟨effects, trace, orderly⟩ := conducts.orderly
  have since : ((c.launch interval).after actions).world.history.drop c.world.history.length =
      effects.reverse := by
    rw [World.history, World.history, trace, List.reverse_append]
    exact List.drop_left
  have free : born.engine.holds token = false := by cases token <;> rfl
  rw [callLog, since, ← free]
  exact orderly token

/-- Tokens are never taken twice or given back while they are not held. At each moment of each run
audio focus and the wake lock were granted and given back in turn, a grant first; each of the calls
came when it could: a request while the token was not held, a return while it was; the notification
was taken away only if it was shown since it was taken away last. What the engine takes itself to hold
is what these calls say. -/
theorem tokens_in_order (c : Core σ L) (interval : Duration) (actions : List (Action σ L)) :
    let calls := c.callLog interval actions
    (∀ initial, initial <+: calls → ∀ token : Token, token.isExclusive →
      (token.handovers initial).IsChain (· ≠ ·) ∧
      (token.handovers initial).head? ≠ some .returned) ∧
    (∀ earlier exchange, earlier ++ [exchange] <+: calls → ∀ token deed,
      exchange.1.deed? exchange.2 = some (token, deed) →
      deed.InOrder token (token.heldAfter earlier)) ∧
    ∀ token, ((c.launch interval).after actions).world.engine.holds token =
      token.heldAfter calls := by
  intro calls
  have orderly := callLog_orderly c interval actions
  have initially : ∀ initial, initial <+: calls → ∀ token : Token,
      ∃ held, Deed.Orderly token false (token.deeds initial) held := by
    rintro initial ⟨later, whole⟩ token
    have all : Deed.Orderly token false (token.deeds calls) _ := orderly token
    rw [← whole, Token.deeds_append] at all
    obtain ⟨held, before, _⟩ := all.split
    exact ⟨held, before⟩
  refine ⟨fun initial within token exclusive => ?_, fun earlier exchange within token deed does => ?_,
    fun token => Token.heldAfter_eq (orderly token)⟩
  · obtain ⟨held, before⟩ := initially initial within token
    exact Token.handovers_alternate before exclusive
  · obtain ⟨held, all⟩ := initially _ within token
    rw [Token.deeds_append] at all
    obtain ⟨between, before, now⟩ := all.split
    have single : token.deeds [exchange] = [deed] := by
      simp [Token.deeds, Token.deedOf?, does]
    rw [single] at now
    rw [← Token.heldAfter_eq before]
    cases now with
    | cons order _ => exact order

/-- The app comes back after an item played in the background, and playback is reset. -/
def tidied : List (Action Obliging Empty) :=
  departed ++ [.signal .foreground, .take, .command .reset, .take]

example : Token.handovers .focus (obliged.callLog .zero tidied) = [.taken, .returned] ∧
    Token.handovers .notification (obliged.callLog .zero tidied) = [.taken, .taken, .returned] := by
  decide +kernel

end Core
end MediaPlayback
