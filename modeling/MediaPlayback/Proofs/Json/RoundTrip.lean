import Mathlib.Data.List.Permutation
import MediaPlayback.Json.Event
import MediaPlayback.Proofs.Json.Reordered

/-! What is written for an event or for what a notification says is read as the same again, in
whatever order the fields stand. Most records fill a place of their own with each field, so that two
fields can always change places. An event is the exception: its payload is understood at once if the
type stands before it, and else is kept until the type is known. -/

namespace MediaPlayback

open Json (Reordered isLeaf_string isWhole_ofText? toNat_le_maxWhole required?_of_only
  absentOr?_of_text)
open Draft (readFields readNext required Fills Swaps)

namespace Conversation

variable {c : Conversation} {j : Json}

theorem isWhole_toJson (c : Conversation) : c.toJson.IsWhole :=
  ⟨trivial, isWhole_ofText? c.displayName, trivial⟩

theorem fills_id (id : String) :
    Fills Partial.field ("id", .string id) (·.id.isSome) ({ · with id := some id }) := by
  rintro ⟨_ | _, displayName⟩ <;> rfl

theorem fills_displayName (name : Option String) :
    Fills Partial.field ("display_name", .ofText? name) (·.displayName.isSome)
      ({ · with displayName := some name }) := by
  rintro ⟨id, _ | _⟩ <;> cases name <;> rfl

theorem ofDraft_reordered (reordered : Reordered c.toJson j) : ofDraft (.ofJson j) = .ok c := by
  have leaves : ∀ f ∈ [("id", Json.string c.id), ("display_name", .ofText? c.displayName)],
      f.2.IsLeaf := by
    simp
  obtain ⟨fields, rfl, order⟩ := reordered.of_leaves leaves
  have swaps := (fills_id c.id).swaps (fills_displayName c.displayName)
    (fun _ => rfl) (fun _ => rfl) fun _ => rfl
  rw [Draft.ofJson, ofDraft, ← Draft.readFields_perm order (by simp [swaps])]
  obtain ⟨id, _ | _⟩ := c <;> rfl

end Conversation

namespace TapTarget

variable {t : TapTarget} {j : Json}

theorem isWhole_toJson (t : TapTarget) : t.toJson.IsWhole := by
  cases t with
  | player => exact trivial
  | conversation c => exact ⟨c.isWhole_toJson, trivial⟩

theorem ofDraft_reordered (reordered : Reordered t.toJson j) : ofDraft (.ofJson j) = .ok t := by
  cases t with
  | player =>
    cases reordered
    rfl
  | conversation c =>
    cases reordered with
    | object each order =>
      cases each with
      | cons first others =>
        cases others
        obtain rfl := (List.singleton_perm.mp order).symm
        have payload := Conversation.ofDraft_reordered first
        rw [ofDraft, Draft.readTagged_single]
        simp only [bind, Except.bind, String.reduceEq, if_false, if_true, payload]
        rfl

end TapTarget

namespace NotificationContent

variable {c : NotificationContent} {j : Json}

/-- The fields of what is written for a content, with what is written for its target. -/
def fields (c : NotificationContent) (target : Json) : List (String × Json) :=
  [("title", .string c.title), ("subtitle", .ofText? c.subtitle), ("is_playing", .bool c.isPlaying),
    ("tap_target", target)]

theorem isWhole_toJson (c : NotificationContent) : c.toJson.IsWhole :=
  ⟨trivial, isWhole_ofText? c.subtitle, trivial, c.tapTarget.isWhole_toJson, trivial⟩

theorem fills_title (title : String) :
    Fills Partial.field ("title", .string title) (·.title.isSome)
      ({ · with title := some title }) := by
  rintro ⟨_ | _, subtitle, isPlaying, tapTarget⟩ <;> rfl

theorem fills_subtitle (subtitle : Option String) :
    Fills Partial.field ("subtitle", .ofText? subtitle) (·.subtitle.isSome)
      ({ · with subtitle := some subtitle }) := by
  rintro ⟨title, _ | _, isPlaying, tapTarget⟩ <;> cases subtitle <;> rfl

theorem fills_isPlaying (isPlaying : Bool) :
    Fills Partial.field ("is_playing", .bool isPlaying) (·.isPlaying.isSome)
      ({ · with isPlaying := some isPlaying }) := by
  rintro ⟨title, subtitle, _ | _, tapTarget⟩ <;> rfl

theorem fills_tapTarget {target : TapTarget} (reordered : Reordered target.toJson j) :
    Fills Partial.field ("tap_target", j) (·.tapTarget.isSome)
      ({ · with tapTarget := some target }) := by
  have read := TapTarget.ofDraft_reordered reordered
  rintro ⟨title, subtitle, isPlaying, _ | _⟩
  · rw [Draft.readNext_of_known rfl, Draft.once]
    simp only [Option.isSome, Bool.false_eq_true, if_false, bind, Except.bind, read]
    rfl
  · rfl

theorem swaps_fields (moved : Reordered c.tapTarget.toJson j) :
    (c.fields j).Pairwise (Swaps Partial.field) := by
  have title := fills_title c.title
  have subtitle := fills_subtitle c.subtitle
  have isPlaying := fills_isPlaying c.isPlaying
  have tapTarget := fills_tapTarget moved
  simp only [fields, List.pairwise_cons, List.forall_mem_cons]
  refine ⟨⟨?_, ?_, ?_, nofun⟩, ⟨?_, ?_, nofun⟩, ⟨?_, nofun⟩, nofun, .nil⟩
  · exact title.swaps subtitle (fun _ => rfl) (fun _ => rfl) fun _ => rfl
  · exact title.swaps isPlaying (fun _ => rfl) (fun _ => rfl) fun _ => rfl
  · exact title.swaps tapTarget (fun _ => rfl) (fun _ => rfl) fun _ => rfl
  · exact subtitle.swaps isPlaying (fun _ => rfl) (fun _ => rfl) fun _ => rfl
  · exact subtitle.swaps tapTarget (fun _ => rfl) (fun _ => rfl) fun _ => rfl
  · exact isPlaying.swaps tapTarget (fun _ => rfl) (fun _ => rfl) fun _ => rfl

theorem readFields_fields (moved : Reordered c.tapTarget.toJson j) :
    readFields Partial.field {} (Draft.ofFields (c.fields j)) .closed =
      .ok ⟨some c.title, some c.subtitle, some c.isPlaying, some c.tapTarget⟩ := by
  simp [fields, Draft.readFields_eq_foldl, fills_title c.title _, fills_subtitle c.subtitle _,
    fills_isPlaying c.isPlaying _, fills_tapTarget moved _]

theorem ofDraft_reordered (reordered : Reordered c.toJson j) : ofDraft (.ofJson j) = .ok c := by
  cases reordered with
  | object each order =>
    rcases each with _ | ⟨title, _ | ⟨subtitle, _ | ⟨isPlaying, _ | ⟨tapTarget, _ | _⟩⟩⟩⟩
    obtain rfl := title.eq_of_leaf (isLeaf_string _)
    obtain rfl := subtitle.eq_of_leaf (Json.isLeaf_ofText? _)
    obtain rfl := isPlaying.eq_of_leaf (Json.isLeaf_bool _)
    rw [Draft.ofJson, ofDraft, ← Draft.readFields_perm order (swaps_fields tapTarget)]
    change (readFields Partial.field {} (Draft.ofFields (c.fields _)) .closed).bind _ = _
    rw [readFields_fields tapTarget]
    rfl

end NotificationContent

namespace CoreEvent

/-- The domain of an event. -/
def origin : CoreEvent → Domain
  | .playback _ => .playback
  | .lifecycle _ => .lifecycle

/-- What the payload of an event holds beside the kind. -/
def content : CoreEvent → List (String × Json)
  | .playback (.stateChanged status path) =>
    [("status", .string status.name), ("path", .ofText? path)]
  | .playback (.trackChanged path title index) =>
    [("path", .ofText? path), ("title", .ofText? title), ("index", PlaybackEvent.ofIndex? index)]
  | .playback (.positionChanged path position duration) =>
    [("path", .string path), ("position_ms", .nat position.toNat),
      ("duration_ms", .nat duration.toNat)]
  | .playback (.focusDenied path) => [("path", .string path)]
  | .playback (.error path message recoverable) =>
    [("path", .ofText? path), ("message", .string message), ("recoverable", .bool recoverable)]
  | .lifecycle _ => []

/-- What is written for the payload of an event. -/
def payload (e : CoreEvent) : List (String × Json) := ("event", .string e.kind) :: e.content

theorem toJson_eq (e : CoreEvent) :
    e.toJson = .object [("type", .string e.domain), ("payload", .object e.payload)] := by
  rcases e with (_ | _ | _ | _ | _) | (_ | _) <;> rfl

theorem ofName?_domain (e : CoreEvent) : Domain.ofName? e.domain = some e.origin := by
  cases e <;> rfl

theorem kind_mem (e : CoreEvent) : e.kind ∈ e.origin.kinds := by
  rcases e with (_ | _ | _ | _ | _) | (_ | _) <;>
    simp [kind, origin, Domain.kinds, PlaybackEvent.kinds, LifecycleEvent.kinds]

theorem content_leaves (e : CoreEvent) : ∀ f ∈ e.content, f.2.IsLeaf := by
  rcases e with (_ | _ | _ | _ | _) | (_ | _) <;> simp [content, PlaybackEvent.ofIndex?]

theorem payload_leaves (e : CoreEvent) : ∀ f ∈ e.payload, f.2.IsLeaf :=
  List.forall_mem_cons.mpr ⟨isLeaf_string _, e.content_leaves⟩

theorem content_unnamed (e : CoreEvent) : ∀ f ∈ e.content, f.1 ≠ "event" := by
  rcases e with (_ | _ | _ | _ | _) | (_ | _) <;> simp [content]

theorem isWhole_ofIndex? (index : Option UInt64) : (PlaybackEvent.ofIndex? index).IsWhole := by
  cases index with
  | none => exact trivial
  | some n => exact toNat_le_maxWhole n

theorem isWhole_content (e : CoreEvent) : Json.HasWhole e.content := by
  rcases e with (_ | _ | _ | _ | _) | (_ | _) <;>
    simp only [content, Json.HasWhole, Json.IsWhole, toNat_le_maxWhole, isWhole_ofText?,
      isWhole_ofIndex?, and_self]

theorem isWhole_toJson (e : CoreEvent) : e.toJson.IsWhole := by
  rw [toJson_eq]
  exact ⟨trivial, ⟨trivial, e.isWhole_content⟩, trivial⟩

theorem word64?_toNat (n : UInt64) : PlaybackEvent.word64? (.nat n.toNat) = some n :=
  congrArg some UInt64.ofNat_toNat

theorem absentOr?_of_index {name : String} {fields : List (String × Json)} (index : Option UInt64)
    (only : Json.valuesOf name fields = [PlaybackEvent.ofIndex? index]) :
    Json.absentOr? name PlaybackEvent.word64? fields = some index := by
  rw [Json.absentOr?, only]
  cases index with
  | none => rfl
  | some n => exact congrArg (Option.map some) (word64?_toNat n)

/-- The kind and the content of an event tell which event it is. -/
theorem event?_content (e : CoreEvent) :
    e.origin.event? e.kind (.object e.content) = some e := by
  rcases e with (⟨status, path⟩ | ⟨path, title, index⟩ | ⟨path, position, duration⟩ | path |
    ⟨path, message, recoverable⟩) | (_ | _)
  all_goals
    simp only [origin, kind, content, Domain.event?, PlaybackEvent.ofContent?,
      PlaybackEvent.ofFields?]
  · rw [required?_of_only (by rfl), absentOr?_of_text path (by rfl)]
    cases status <;> rfl
  · rw [absentOr?_of_text path (by rfl), absentOr?_of_text title (by rfl),
      absentOr?_of_index index (by rfl)]
    rfl
  · rw [required?_of_only (by rfl), required?_of_only (by rfl), required?_of_only (by rfl)]
    simp [Json.string?, word64?_toNat]
  · rfl
  · rw [absentOr?_of_text path (by rfl)]
    rfl
  · rfl
  · rfl

theorem event?_perm {domain : Domain} {kind : String} {fields fields' : List (String × Json)}
    (order : fields.Perm fields') :
    domain.event? kind (.object fields) = domain.event? kind (.object fields') := by
  cases domain with
  | playback =>
    have same : PlaybackEvent.ofFields? kind fields = PlaybackEvent.ofFields? kind fields' := by
      unfold PlaybackEvent.ofFields?
      simp only [Json.required?_perm order, Json.absentOr?_perm order]
    exact congrArg (Option.map CoreEvent.playback) same
  | lifecycle =>
    have same : LifecycleEvent.ofContent? kind (.object fields) =
        LifecycleEvent.ofContent? kind (.object fields') := by
      unfold LifecycleEvent.ofContent?
      split <;> first | rfl | (split <;> simp_all)
    exact congrArg (Option.map CoreEvent.lifecycle) same

variable {e : CoreEvent} {fields : List (String × Json)}

theorem readKind_kind (e : CoreEvent) : e.origin.readKind (.string e.kind) = .ok e.kind :=
  if_pos e.kind_mem

/-- Fields beside the kind are kept as they are. -/
theorem readFields_content {domain : Domain} {depth : Nat} {kind : Option String}
    (others : List (String × Json)) (rest : List (Except Fault String × Draft)) {ending : Ending}
    (unnamed : ∀ f ∈ fields, f.1 ≠ "event") (leaves : ∀ f ∈ fields, f.2.IsLeaf) :
    domain.readFields depth kind others (Draft.ofFields fields ++ rest) ending =
      domain.readFields depth kind (others ++ fields) rest ending := by
  induction fields generalizing others with
  | nil =>
    rw [List.append_nil]
    rfl
  | cons f fields ih =>
    obtain ⟨name, value⟩ := f
    have other : name ≠ "event" := unnamed _ List.mem_cons_self
    have settled := Draft.settle_of_leaf depth (leaves _ List.mem_cons_self)
    rw [List.append_cons, ← ih _ (fun f mem => unnamed f (List.mem_cons_of_mem _ mem))
      (fun f mem => leaves f (List.mem_cons_of_mem _ mem)), Draft.ofFields, List.cons_append,
      Domain.readFields]
    simp only [bind, Except.bind, if_neg other, settled]

/-- The payload of an event has the kind in some place among the content. -/
theorem split_payload (order : e.payload.Perm fields) :
    ∃ before after, fields = before ++ ("event", .string e.kind) :: after ∧
      e.content.Perm (before ++ after) := by
  obtain ⟨before, after, rfl⟩ := List.append_of_mem (order.mem_iff.mp List.mem_cons_self)
  refine ⟨before, after, rfl, ?_⟩
  exact (order.trans List.perm_middle).cons_inv

theorem readFields_payload {before after : List (String × Json)} (depth : Nat)
    (others : e.content.Perm (before ++ after)) : e.origin.readFields depth none []
      (Draft.ofFields (before ++ ("event", .string e.kind) :: after)) .closed =
        .ok (some e.kind, before ++ after) := by
  have unnamed : ∀ f ∈ before ++ after, f.1 ≠ "event" := fun f mem =>
    e.content_unnamed f (others.mem_iff.mpr mem)
  have leaves : ∀ f ∈ before ++ after, f.2.IsLeaf := fun f mem =>
    e.content_leaves f (others.mem_iff.mpr mem)
  rw [List.forall_mem_append] at unnamed leaves
  have rest : e.origin.readFields depth (some e.kind) before (Draft.ofFields after) .closed =
      .ok (some e.kind, before ++ after) := by
    rw [← List.append_nil (Draft.ofFields after), readFields_content _ _ unnamed.2 leaves.2]
    rfl
  rw [Draft.ofFields_append, readFields_content _ _ unnamed.1 leaves.1, List.nil_append,
    Draft.ofFields, Domain.readFields]
  have kind : Draft.once none e.origin.readKind (Draft.ofJson (.string e.kind)) = .ok e.kind :=
    e.readKind_kind
  simp only [bind, Except.bind, if_true, kind, rest]

/-- A payload whose domain is known is understood, in whatever order its fields stand. -/
theorem readPayload_of_perm (order : e.payload.Perm fields) :
    e.origin.readPayload (.ofJson (.object fields)) = .ok e := by
  obtain ⟨before, after, rfl, others⟩ := split_payload order
  rw [Draft.ofJson, Domain.readPayload]
  simp only [bind, Except.bind, readFields_payload _ others, required]
  rw [event?_perm others.symm, event?_content]

/-- A payload that was kept is understood, in whatever order its fields stand. -/
theorem ofPayload?_of_perm (order : e.payload.Perm fields) :
    e.origin.ofPayload? (.object fields) = some e := by
  have named : Json.required? "event" e.origin.kind? fields = some e.kind := by
    have only : Json.valuesOf "event" e.payload = [.string e.kind] := by
      have none : Json.valuesOf "event" e.content = [] :=
        List.filterMap_eq_nil_iff.mpr fun f mem => if_neg (e.content_unnamed f mem)
      exact congrArg (_ :: ·) none
    rw [← Json.required?_perm order, required?_of_only only]
    exact if_pos e.kind_mem
  have content : e.content.Perm (fields.filter (·.1 ≠ "event")) := by
    have rest : e.payload.filter (·.1 ≠ "event") = e.content :=
      List.filter_eq_self.mpr fun f mem => decide_eq_true (e.content_unnamed f mem)
    exact rest ▸ order.filter _
  rw [Domain.ofPayload?, named]
  simp only [bind, Option.bind]
  rw [event?_perm content.symm, event?_content]

theorem readWord_domain (e : CoreEvent) :
    Draft.readWord Domain.ofName? (.ofJson (.string e.domain)) = .ok e.origin := by
  simp only [Draft.readWord, Draft.ofJson, Draft.readTagged, bind, Except.bind, e.ofName?_domain]
  rfl

theorem readNext_type (e : CoreEvent) :
    readNext Partial.field (.ok {}) ("type", .string e.domain) =
      .ok { domain := some e.origin } := by
  rw [Draft.readNext_of_known rfl, Draft.once]
  simp only [Option.isSome, Bool.false_eq_true, if_false, bind, Except.bind, e.readWord_domain]
  rfl

theorem readNext_payload_of_type (order : e.payload.Perm fields) :
    readNext Partial.field (.ok { domain := some e.origin }) ("payload", .object fields) =
      .ok { domain := some e.origin, event := some e } := by
  rw [Draft.readNext_of_known rfl]
  simp only [bind, Except.bind, readPayload_of_perm order]
  rfl

theorem readNext_payload (order : e.payload.Perm fields) :
    readNext Partial.field (.ok {}) ("payload", .object fields) =
      .ok { payload := some (.object fields) } := by
  have leaves : ∀ f ∈ fields, f.2.IsLeaf := fun f mem =>
    e.payload_leaves f (order.mem_iff.mpr mem)
  have settled : (Draft.ofJson (.object fields)).settle (Draft.maxDepth - 1) =
      .ok (.object fields) := by
    rw [Draft.ofJson, Draft.settle]
    simp only [bind, Except.bind, Draft.settleFields_of_leaves _ leaves]
    rfl
  rw [Draft.readNext_of_known rfl]
  simp only [bind, Except.bind, settled]
  rfl

theorem readNext_type_of_payload (order : e.payload.Perm fields) :
    readNext Partial.field (.ok { payload := some (.object fields) }) ("type", .string e.domain) =
      .ok { domain := some e.origin, payload := some (.object fields), event := some e } := by
  rw [Draft.readNext_of_known rfl, Draft.once]
  simp only [Option.isSome, Bool.false_eq_true, if_false, bind, Except.bind, e.readWord_domain,
    ofPayload?_of_perm order]
  rfl

theorem ofDraft_reordered {j : Json} (reordered : Reordered e.toJson j) :
    ofDraft (.ofJson j) = .ok e := by
  rw [toJson_eq] at reordered
  cases reordered with
  | object each order =>
    rcases each with _ | ⟨domain, _ | ⟨payload, _ | _⟩⟩
    obtain rfl := domain.eq_of_leaf (isLeaf_string _)
    obtain ⟨fields, rfl, inner⟩ := payload.of_leaves e.payload_leaves
    rw [Draft.ofJson, ofDraft, Draft.readFields_eq_foldl]
    rcases List.pair_perm.mp order with rfl | rfl
    · rw [List.foldl_cons, List.foldl_cons, readNext_type, readNext_payload_of_type inner]
      rfl
    · rw [List.foldl_cons, List.foldl_cons, readNext_payload inner, readNext_type_of_payload inner]
      rfl

end CoreEvent

/-- What is written for the values of a type is read as the values again, in whatever order the
fields stand. So different values are never written alike. -/
structure Json.Restores {α : Type} (toJson : α → Json) (reader : Draft → Except Fault α) :
    Prop where
  reads : ∀ a, Json.read reader (toJson a).text = .ok a
  reordered : ∀ {a j}, Reordered (toJson a) j → Json.read reader j.text = .ok a
  distinct : ∀ {a b j j'}, Reordered (toJson a) j → Reordered (toJson b) j' → j.text = j'.text →
    a = b

theorem Json.Restores.of_draft {α : Type} {toJson : α → Json} {reader : Draft → Except Fault α}
    (whole : ∀ a, (toJson a).IsWhole)
    (reads : ∀ {a j}, Reordered (toJson a) j → reader (.ofJson j) = .ok a) :
    Json.Restores toJson reader := by
  have reordered {a : α} {j : Json} (same : Reordered (toJson a) j) :
      Json.read reader j.text = .ok a :=
    (Json.read_text (same.isWhole (whole a))).trans (reads same)
  refine ⟨fun a => reordered (.refl _), reordered, fun {a b j j'} same same' alike => ?_⟩
  have first := reordered same
  rw [alike, reordered same'] at first
  exact (Except.ok.inj first).symm

/-- Events, and all that a notification says, come back from their JSON form as they were. -/
theorem json_restored :
    Json.Restores CoreEvent.toJson CoreEvent.ofDraft ∧
    Json.Restores NotificationContent.toJson NotificationContent.ofDraft ∧
    Json.Restores TapTarget.toJson TapTarget.ofDraft ∧
    Json.Restores Conversation.toJson Conversation.ofDraft :=
  ⟨.of_draft CoreEvent.isWhole_toJson CoreEvent.ofDraft_reordered,
    .of_draft NotificationContent.isWhole_toJson NotificationContent.ofDraft_reordered,
    .of_draft TapTarget.isWhole_toJson TapTarget.ofDraft_reordered,
    .of_draft Conversation.isWhole_toJson Conversation.ofDraft_reordered⟩

end MediaPlayback
