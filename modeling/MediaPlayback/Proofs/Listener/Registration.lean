import Mathlib.Data.List.Nodup
import MediaPlayback.Proofs.Listener.Round

/-! The numbers that listeners are registered under. Listeners come and go, also in the middle of a round
of telling, and every registration gets the number after the one before. As long as there are not more
registrations than numbers, a number stands for one registration for ever, so that it is harmless to take
back a registration a second time. -/

namespace MediaPlayback

/-- Something that is done to a registry. -/
inductive Registry.Operation (L P σ : Type) where
  | add (listener : L)
  | remove (id : ListenerId)
  | notify (react : Registry L → ListenerId → L → σ → Reaction L P × σ)

namespace Registry

variable {L P σ : Type}

/-- The numbers that edits hand out, in order. -/
def handed (r : Registry L) : List (Edit L) → List ListenerId
  | [] => []
  | .add listener :: edits => (r.add listener).1 :: handed (r.add listener).2 edits
  | .remove id :: edits => handed (r.remove id) edits

/-- A registry and all that is outside, after an operation. -/
def operate (s : Registry L × σ) : Operation L P σ → Registry L × σ
  | .add listener => ((s.1.add listener).2, s.2)
  | .remove id => (s.1.remove id, s.2)
  | .notify react => (s.1.notify react s.2).2

/-- The edits that an operation amounts to; in a round they are those of the listeners. -/
def Operation.edits (s : Registry L × σ) : Operation L P σ → List (Edit L)
  | .add listener => [.add listener]
  | .remove id => [.remove id]
  | .notify react => (s.1.calls react s.2).flatMap (·.reaction.edits)

/-- What operations make of a registry and of all that is outside. -/
def after (s : Registry L × σ) (operations : List (Operation L P σ)) : Registry L × σ :=
  operations.foldl operate s

/-- The edits that operations amount to, in the order in which they are made. -/
def edits (s : Registry L × σ) : List (Operation L P σ) → List (Edit L)
  | [] => []
  | operation :: rest => operation.edits s ++ edits (operate s operation) rest

/-- The numbers that operations hand out, in order. -/
def handedOut (s : Registry L × σ) (operations : List (Operation L P σ)) : List ListenerId :=
  s.1.handed (edits s operations)

theorem operate_eq (s : Registry L × σ) (operation : Operation L P σ) :
    (operate s operation).1 = (operation.edits s).foldl edit s.1 := by
  cases operation with
  | add => rfl
  | remove => rfl
  | notify react => exact (calls_edits s.1 react s.2).symm

theorem after_eq (s : Registry L × σ) (operations : List (Operation L P σ)) :
    (after s operations).1 = (edits s operations).foldl edit s.1 := by
  induction operations generalizing s with
  | nil => rfl
  | cons first rest ih =>
    rw [edits, List.foldl_append, ← operate_eq]
    exact ih (operate s first)

theorem handed_append (r : Registry L) (edits more : List (Edit L)) :
    r.handed (edits ++ more) = r.handed edits ++ (edits.foldl edit r).handed more := by
  induction edits generalizing r with
  | nil => rfl
  | cons first rest ih =>
    cases first with
    | add listener => exact congrArg ((r.add listener).1 :: ·) (ih _)
    | remove id => exact ih _

theorem toNat_next_add {r : Registry L} (listener : L) (room : r.next.toNat + 1 < UInt64.size) :
    (r.add listener).2.next.toNat = r.next.toNat + 1 := by
  simp only [UInt64.size] at room
  simp only [add, UInt64.toNat_add, UInt64.reduceToNat]
  omega

/-- Numbers are handed out from `next` on, as long as there are any. -/
theorem le_of_handed {r : Registry L} {edits : List (Edit L)}
    (enough : r.next.toNat + (r.handed edits).length ≤ UInt64.size) :
    ∀ id ∈ r.handed edits, r.next ≤ id.value := by
  induction edits generalizing r with
  | nil => simp [handed]
  | cons first rest ih =>
    cases first with
    | remove id => exact ih enough
    | add listener =>
      intro id mem
      simp only [handed, List.length_cons, List.mem_cons] at enough mem
      rcases mem with rfl | mem
      · exact Nat.le_refl _
      · have more : 0 < ((r.add listener).2.handed rest).length := List.length_pos_of_mem mem
        have next := toNat_next_add listener (show r.next.toNat + 1 < UInt64.size by omega)
        have later := ih (by omega) id mem
        rw [UInt64.le_iff_toNat_le] at later ⊢
        omega

/-- Later registrations have larger numbers. -/
theorem handed_increasing {r : Registry L} {edits : List (Edit L)}
    (enough : r.next.toNat + (r.handed edits).length ≤ UInt64.size) :
    (r.handed edits).Pairwise (·.value < ·.value) := by
  induction edits generalizing r with
  | nil => exact .nil
  | cons first rest ih =>
    cases first with
    | remove id => exact ih enough
    | add listener =>
      simp only [handed, List.length_cons] at enough
      -- the number behind the last one is never handed out, and may be any
      by_cases last : ((r.add listener).2.handed rest).length = 0
      · simp [handed, List.length_eq_zero_iff.mp last]
      · have next := toNat_next_add listener (show r.next.toNat + 1 < UInt64.size by omega)
        have enough_later : (r.add listener).2.next.toNat +
            ((r.add listener).2.handed rest).length ≤ UInt64.size := by omega
        refine .cons (fun id mem => ?_) (ih enough_later)
        have later := le_of_handed enough_later id mem
        rw [UInt64.le_iff_toNat_le] at later
        rw [UInt64.lt_iff_toNat_lt]
        show r.next.toNat < id.value.toNat
        omega

/-- Who is registered was registered before or got a number since. -/
theorem entries_sublist (r : Registry L) (edits : List (Edit L)) :
    ((edits.foldl edit r).entries.map (·.1)).Sublist (r.entries.map (·.1) ++ r.handed edits) := by
  induction edits generalizing r with
  | nil => simp [handed]
  | cons first rest ih =>
    refine (ih (r.edit first)).trans ?_
    cases first with
    | add listener => simp [edit, add, handed]
    | remove id =>
      exact (List.filter_sublist.map _).append (List.Sublist.refl _)

/-- A registry that came about by fewer registrations than there are numbers. -/
def Unexhausted (r : Registry L) : Prop :=
  ∃ edits : List (Edit L), r = edits.foldl edit {} ∧ (handed {} edits).length < UInt64.size

theorem handed_increasing_of_few {edits : List (Edit L)}
    (few : (handed {} edits).length < UInt64.size) :
    (handed {} edits).Pairwise (·.value < ·.value) := by
  refine handed_increasing ?_
  show 1 + _ ≤ _
  omega

/-- While there are numbers left, who is registered stands in the order of the numbers. -/
theorem Unexhausted.ordered {r : Registry L} (unexhausted : r.Unexhausted) :
    (r.entries.map (·.1.value)).Pairwise (· < ·) := by
  obtain ⟨edits, rfl, few⟩ := unexhausted
  have ordered := (handed_increasing_of_few few).sublist (entries_sublist {} edits)
  rwa [List.pairwise_map] at ordered ⊢

/-- While there are numbers left, a number stands for one listener. -/
theorem Unexhausted.eq_of_id {r : Registry L} (unexhausted : r.Unexhausted)
    {entry entry' : ListenerId × L} (mem : entry ∈ r.entries) (mem' : entry' ∈ r.entries)
    (same : entry.1 = entry'.1) : entry = entry' := by
  have distinct : (r.entries.map (·.1.value)).Nodup := unexhausted.ordered.imp UInt64.ne_of_lt
  exact List.inj_on_of_nodup_map distinct mem mem' (congrArg ListenerId.value same)

theorem remove_of_not_registered {r : Registry L} {id : ListenerId}
    (gone : id ∉ r.entries.map (·.1)) : r.remove id = r := by
  have all : r.entries.filter (·.1 ≠ id) = r.entries :=
    List.filter_eq_self.mpr fun entry mem =>
      decide_eq_true fun same => gone (same ▸ List.mem_map_of_mem mem)
  rw [remove, all]

/-- What was registered and is taken back stays away, whatever is done afterwards, if no number is
handed out twice. -/
theorem remove_again {r : Registry L} {id : ListenerId} {before between : List (Edit L)}
    (fresh : (r.handed (before ++ .remove id :: between)).Nodup) (known : id ∈ r.handed before) :
    ((before ++ .remove id :: between).foldl edit r).remove id =
      (before ++ .remove id :: between).foldl edit r := by
  rw [handed_append] at fresh
  have later : id ∉ ((before.foldl edit r).remove id).handed between :=
    fun again => (List.nodup_append.mp fresh).2.2 id known id again rfl
  refine remove_of_not_registered fun mem => ?_
  rw [List.foldl_append] at mem
  have origin := (entries_sublist ((before.foldl edit r).remove id) between).subset mem
  rcases List.mem_append.mp origin with kept | new
  · obtain ⟨entry, mem, same⟩ := List.mem_map.mp kept
    exact of_decide_eq_true (List.mem_filter.mp mem).2 same
  · exact later new

/-- The numbers that operations hand out, from the start on, each stand for one listener. -/
structure Distinguishes (outside : σ) (operations : List (Operation L P σ)) : Prop where
  distinct : (handedOut ({}, outside) operations).Nodup
  /-- Who is registered stands in the order of registration. -/
  ordered : ((after ({}, outside) operations).1.entries.map (·.1.value)).Pairwise (· < ·)
  /-- To take back what was taken back before is to no effect, at any moment. -/
  settled : ∀ (before between rest : List (Edit L)) (id : ListenerId),
    edits ({}, outside) operations = before ++ .remove id :: between ++ rest →
    id ∈ Registry.handed {} before →
    ((before ++ .remove id :: between).foldl edit {}).remove id =
      (before ++ .remove id :: between).foldl edit {}

theorem distinguishes {outside : σ} {operations : List (Operation L P σ)}
    (few : (handedOut ({}, outside) operations).length < UInt64.size) :
    Distinguishes outside operations := by
  have distinct : (handedOut ({}, outside) operations).Nodup :=
    (handed_increasing_of_few few).imp fun {id later} less => by
      rintro rfl
      exact UInt64.lt_irrefl _ less
  have unexhausted : (after ({}, outside) operations).1.Unexhausted :=
    ⟨edits ({}, outside) operations, after_eq _ _, few⟩
  refine ⟨distinct, unexhausted.ordered, fun before between rest id made known => ?_⟩
  rw [handedOut, made, handed_append _ (before ++ _)] at distinct
  exact remove_again (distinct.sublist (List.sublist_append_left _ _)) known

/-- Listeners do not get in each other's way. In every round exactly the listeners that were registered
when it began are called, each in its turn, as they note themselves, the failures are those of the
listeners that broke off, and the registrations are edited as the listeners say. From the start on every
number stands for one listener, while there are fewer registrations than numbers. A round in which the
engine tells its listeners something leaves each call behind, with its failure if it failed, and nothing
else. -/
theorem listeners_isolated (L P σ : Type) :
    (∀ (r : Registry L) (react : Registry L → ListenerId → L → σ → Reaction L P × σ) (outside : σ)
      (operation : String),
      let calls := r.calls react outside
      let edits := calls.flatMap (·.reaction.edits)
      r.notify (noting react) (outside, []) = ((r.notify react outside).1,
        (r.notify react outside).2.1, (r.notify react outside).2.2, calls) ∧
      calls.map (fun call => (call.id, call.listener)) = r.entries ∧
      r.failures operation react outside =
        calls.filterMap (fun call => call.reaction.breakdown.map fun breakdown =>
          .listenerFailure call.id.value.toNat operation breakdown.message) ∧
      (r.notify react outside).2.1.entries =
        r.entries.filter (fun entry => entry.1 ∉ Edit.removals edits) ++
          Edit.additions r.next edits) ∧
    (∀ (outside : σ) (operations : List (Operation L P σ)),
      (after ({}, outside) operations).1 = (edits ({}, outside) operations).foldl edit {} ∧
      ((handedOut ({}, outside) operations).length < UInt64.size →
        Distinguishes outside operations)) ∧
    ∀ [Surroundings σ L] (w : World σ L) (notice : Notice), (w.tell notice).history =
      w.history ++ (w.callsOf notice).flatMap fun call => World.effectsOf notice call.told := by
  refine ⟨fun r react outside operation => ?_,
    fun outside operations => ⟨after_eq _ _, distinguishes⟩, World.tell_history⟩
  refine ⟨r.notify_noting react outside, r.calls_entries react outside,
    r.failures_eq react outside operation, ?_⟩
  rw [← calls_edits]
  exact entries_edits r _

/-- Three listeners, the first of which leaves when it is told something, brings another one in, takes
the last one with it and then breaks off. Afterwards it is taken back once more. -/
def departing : List (Operation Nat Unit Unit) :=
  [.add 0, .add 1, .add 2,
    .notify fun _ id listener _ =>
      if listener = 0 then
        ({ edits := [.remove id, .add 7, .remove ⟨3⟩], breakdown := some (.text "listener bug") }, ())
      else ({}, ()),
    .remove ⟨1⟩]

/-- The listener that was brought in has a number of its own, and stays. -/
theorem listeners_isolated_departing :
    handedOut ({}, ()) departing = [⟨1⟩, ⟨2⟩, ⟨3⟩, ⟨4⟩] ∧
    (handedOut ({}, ()) departing).Nodup ∧
    (after ({}, ()) departing).1.entries = [(⟨2⟩, 1), (⟨4⟩, 7)] ∧
    (after ({}, ()) departing).1.remove ⟨1⟩ = (after ({}, ()) departing).1 := by
  have few : (handedOut ({}, ()) departing).length < UInt64.size := by decide
  have promise := ((listeners_isolated Nat Unit Unit).2.1 () departing).2 few
  refine ⟨rfl, promise.distinct, rfl, ?_⟩
  exact promise.settled [.add 0, .add 1, .add 2] [.add 7, .remove ⟨3⟩, .remove ⟨1⟩] [] ⟨1⟩ rfl (by decide)

end Registry
end MediaPlayback
