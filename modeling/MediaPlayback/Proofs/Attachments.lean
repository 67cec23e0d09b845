import Mathlib.Data.List.TakeWhile
import MediaPlayback.Desktop.Attachments
import MediaPlayback.Proofs.Relocation.Files

/-! The file of a transfer in a directory of attachments. It is found whatever order the directory
is listed in, it is a file of the directory itself and not the index, and where there is none, that is
what is reported. -/

namespace MediaPlayback

/-- A text is the name of a file without its last extension. -/
inductive IsStem : List Char → List Char → Prop where
  | extended {text extension : List Char} (inhabited : text ≠ []) (undotted : '.' ∉ extension)
      (other : text ++ '.' :: extension ≠ ['.', '.']) : IsStem text (text ++ '.' :: extension)
  /-- A dot at the start opens no extension. -/
  | plain {name : List Char} (undotted : '.' ∉ name.tail) : IsStem name name
  /-- The name of the parent has none. -/
  | parent : IsStem ['.', '.'] ['.', '.']

section Stem

variable {name text extension : List Char}

theorem undotted_reverse (undotted : '.' ∉ name) : ∀ c ∈ name.reverse, (c != '.') = true := by
  intro c mem
  refine bne_iff_ne.mpr ?_
  rintro rfl
  exact undotted (List.mem_reverse.mp mem)

theorem stem_of_undotted (undotted : '.' ∉ name) : stem name = name := by
  have nothing : name.reverse.dropWhile (· != '.') = [] :=
    List.dropWhile_eq_nil_iff.mpr (undotted_reverse undotted)
  rw [stem, nothing]
  split <;> rfl

/-- What stands behind the last dot is an extension, unless the dot is the first character. -/
theorem stem_append (undotted : '.' ∉ extension) (other : text ++ '.' :: extension ≠ ['.', '.']) :
    stem (text ++ '.' :: extension) = if text = [] then '.' :: extension else text := by
  have cut : (text ++ '.' :: extension).reverse.dropWhile (· != '.') = '.' :: text.reverse := by
    rw [List.reverse_append, List.reverse_cons, List.append_assoc,
      List.dropWhile_append_of_pos (undotted_reverse undotted)]
    rfl
  rw [stem, cut, if_neg other]
  cases reversed : text.reverse with
  | nil =>
    obtain rfl := List.reverse_eq_nil_iff.mp reversed
    rfl
  | cons last before =>
    have inhabited : text ≠ [] := by
      rintro rfl
      cases reversed
    rw [if_neg inhabited, ← List.reverse_reverse text, reversed]

/-- A text with a dot in it has a last one. -/
theorem exists_last_dot (dotted : '.' ∈ name) :
    ∃ before after, '.' ∉ after ∧ name = before ++ '.' :: after := by
  obtain ⟨after, before, cut, undotted⟩ := List.eq_append_cons_of_mem (List.mem_reverse.mpr dotted)
  refine ⟨before.reverse, after.reverse, fun mem => undotted (List.mem_reverse.mp mem), ?_⟩
  rw [← List.reverse_reverse name, cut]
  simp

theorem isStem_stem (name : List Char) : IsStem (stem name) name := by
  by_cases parent : name = ['.', '.']
  · subst parent
    exact .parent
  by_cases dotted : '.' ∈ name
  · obtain ⟨before, after, undotted, rfl⟩ := exists_last_dot dotted
    rw [stem_append undotted parent]
    by_cases first : before = []
    · subst first
      exact .plain undotted
    · rw [if_neg first]
      exact .extended first undotted parent
  · rw [stem_of_undotted dotted]
    exact .plain fun mem => dotted (List.mem_of_mem_tail mem)

theorem IsStem.eq (isStem : IsStem text name) : stem name = text := by
  cases isStem with
  | extended inhabited undotted other => rw [stem_append undotted other, if_neg inhabited]
  | parent => rfl
  | plain undotted =>
    by_cases parent : name = ['.', '.']
    · subst parent
      rfl
    cases name with
    | nil => rfl
    | cons c rest =>
      by_cases dot : c = '.'
      · subst dot
        have whole : stem ([] ++ '.' :: rest) = if [] = [] then '.' :: rest else [] :=
          stem_append undotted parent
        exact whole.trans (if_pos rfl)
      · exact stem_of_undotted fun mem => (List.mem_cons.mp mem).elim (dot ·.symm) undotted

theorem stem_eq_iff : stem name = text ↔ IsStem text name :=
  ⟨fun same => same ▸ isStem_stem name, IsStem.eq⟩

end Stem

namespace Path

/-- A slash behind a directory changes nothing about it. -/
theorem components_directory {text : String} (named : text ≠ "") :
    (directory text).components = (⟨text⟩ : Path).components := by
  have absolute : (directory text).isAbsolute = (⟨text⟩ : Path).isAbsolute := by
    cases first : text.toList with
    | nil => exact absurd (String.toList_eq_nil_iff.mp first) named
    | cons => simp [isAbsolute, directory, first]
  have more : (directory text).segments = (⟨text⟩ : Path).segments ++ [[]] := by
    have alone : directory text = within text "" := by simp [directory, within]
    rw [alone, segments_within (by simp)]
    rfl
  have last (before : List (List Char)) : (before ++ [[]]).filterMap Component.ofSegment? =
      before.filterMap Component.ofSegment? := by
    rw [List.filterMap_append]
    exact List.append_nil _
  obtain ⟨first, rest, cut⟩ := List.exists_cons_of_ne_nil (pieces_ne_nil (· == '/') text.toList)
  have segments_eq : (⟨text⟩ : Path).segments = first :: rest := cut
  unfold components
  rw [absolute, more, segments_eq, last]
  by_cases here : first = ['.']
  · subst here
    simp [last]
  · have whole := last (first :: rest)
    rw [List.cons_append] at whole
    simp [here, whole]

/-- The name of a file, as a path, has one component. -/
theorem components_name {name : String} (named : IsFileName name) :
    (⟨name⟩ : Path).components = [.normal name.toList] := by
  have alone : (⟨name⟩ : Path).segments = [name.toList] := segments_of_whole named.whole
  have relative : (⟨name⟩ : Path).isAbsolute = false := by
    refine beq_eq_false_iff_ne.mpr fun slash => ?_
    exact named.whole (List.mem_of_mem_head? slash)
  have other : name.toList ≠ ['.'] := by
    intro current
    have ordinary := named.ordinary
    rw [current] at ordinary
    cases ordinary
  simp [components, relative, alone, other, named.ordinary]

end Path

namespace AttachmentDirectory

/-- The entries of a directory; where there is none, there are no entries. -/
def entries (d : AttachmentDirectory) : List Entry :=
  match d.place with
  | .directory entries => entries
  | _ => []

/-- The name of a transfer can be the name of a file in a directory. -/
structure IsAdmissible (transferId : String) : Prop where
  inhabited : transferId ≠ ""
  below : transferId ≠ ".."
  whole : '/' ∉ transferId.toList ∧ '\\' ∉ transferId.toList

/-- An entry is the file of a transfer. -/
structure Holds (transferId : String) (e : Entry) : Prop where
  file : ∃ bytes, e.content = .file bytes
  attachment : e.name ≠ indexName
  named : e.name = transferId ∨ IsStem transferId.toList e.name.toList

/-- A directory can be read, and the names in it are names that files can have. A place where there
is nothing can be read as well. -/
structure IsReadable (d : AttachmentDirectory) : Prop where
  place : d.place ≠ .file
  named : ∀ e ∈ d.entries, IsFileName e.name

/-- What is answered when the file of a transfer is looked up. -/
structure Answers (d : AttachmentDirectory) (transferId : String)
    (found : Except HostError Entry) : Prop where
  sound : ∀ e, found = .ok e → IsAdmissible transferId ∧ e ∈ d.entries ∧ Holds transferId e
  complete : IsAdmissible transferId → ∀ e ∈ d.entries, Holds transferId e → ∃ e', found = .ok e'
  otherwise : ∀ failure, found = .error failure → failure = .attachmentNotFound transferId

/-- A path leads to a file of the directory itself, under the file's own name. -/
structure Contains (d : AttachmentDirectory) (p : Path) (name : String) : Prop where
  components : p.components = d.root.components ++ [.normal name.toList]
  fileName : p.fileName? = some name
  attachment : ¬ p.Same (d.pathOf indexName)

variable {d : AttachmentDirectory} {transferId name : String} {e : Entry}

theorem isForbidden_iff : isForbidden transferId = false ↔ IsAdmissible transferId := by
  have whole : transferId.toList.any (fun c => c = '/' || c = '\\') = false ↔
      '/' ∉ transferId.toList ∧ '\\' ∉ transferId.toList := by
    simp only [List.any_eq_false, Bool.or_eq_true, decide_eq_true_eq, not_or]
    constructor
    · exact fun other => ⟨fun mem => (other _ mem).1 rfl, fun mem => (other _ mem).2 rfl⟩
    · rintro ⟨slash, backslash⟩ c mem
      exact ⟨fun same => slash (same ▸ mem), fun same => backslash (same ▸ mem)⟩
  simp only [isForbidden, Bool.or_eq_false_iff, whole, String.isEmpty_eq_false_iff,
    decide_eq_false_iff_not]
  exact ⟨fun ⟨⟨inhabited, whole⟩, below⟩ => ⟨inhabited, below, whole⟩,
    fun ⟨inhabited, below, whole⟩ => ⟨⟨inhabited, whole⟩, below⟩⟩

theorem isFile_iff : Entry.isFile e = true ↔ ∃ bytes, e.content = .file bytes := by
  rcases e with ⟨name, bytes | _ | target⟩ <;> simp [Entry.isFile]

theorem isFileOf_iff : isFileOf transferId e = true ↔ Holds transferId e := by
  simp only [isFileOf, isNamedAfter, Bool.and_eq_true, Bool.or_eq_true, decide_eq_true_eq,
    isFile_iff, stem_eq_iff]
  exact ⟨fun ⟨⟨attachment, named⟩, file⟩ => ⟨file, attachment, named⟩,
    fun ⟨file, attachment, named⟩ => ⟨⟨attachment, named⟩, file⟩⟩

/-- The file of a transfer is the first one in the directory, if there is one. -/
theorem findFile_eq (readable : d.place ≠ .file) : d.findFile transferId =
    if isForbidden transferId then .error (.attachmentNotFound transferId)
    else
      match d.entries.find? (isFileOf transferId) with
      | some e => .ok e
      | none => .error (.attachmentNotFound transferId) := by
  unfold findFile entries
  cases there : d.place with
  | nothing => rfl
  | file => exact absurd there readable
  | directory entries => rfl

/-- A lookup is answered rightly, whatever the name of the transfer is. -/
theorem findFile_answers (readable : d.place ≠ .file) :
    d.Answers transferId (d.findFile transferId) := by
  rw [findFile_eq readable]
  by_cases forbidden : isForbidden transferId = true
  · rw [if_pos forbidden]
    refine ⟨fun e found => (nomatch found), fun admissible => ?_, fun _ failed => ?_⟩
    · rw [isForbidden_iff.mpr admissible] at forbidden
      contradiction
    · exact (Except.error.inj failed).symm
  · rw [if_neg forbidden]
    have admissible := isForbidden_iff.mp (Bool.eq_false_iff.mpr forbidden)
    cases first : d.entries.find? (isFileOf transferId) with
    | some e =>
      refine ⟨?_, fun _ _ _ _ => ⟨e, rfl⟩, fun _ failed => (nomatch failed)⟩
      rintro _ ⟨⟩
      exact ⟨admissible, List.mem_of_find?_eq_some first, isFileOf_iff.mp (List.find?_some first)⟩
    | none =>
      refine ⟨fun e found => (nomatch found), fun _ e mem holds => ?_, fun _ failed => ?_⟩
      · exact absurd (isFileOf_iff.mpr holds) (List.find?_eq_none.mp first e mem)
      · exact (Except.error.inj failed).symm

/-- The path of an entry is the root's with the entry's name behind it, however the root is
spelled. -/
theorem components_pathOf (named : IsFileName name) :
    (d.pathOf name).components = d.root.components ++ [.normal name.toList] := by
  obtain ⟨⟨text⟩, place⟩ := d
  cases last : text.toList.getLast? with
  | none =>
    obtain rfl := String.toList_eq_nil_iff.mp (List.getLast?_eq_none_iff.mp last)
    have alone : pathOf ⟨⟨""⟩, place⟩ name = ⟨name⟩ := by simp [pathOf]
    rw [alone, Path.components_name named]
    rfl
  | some c =>
    by_cases divided : c = '/'
    · subst divided
      obtain ⟨before, cut⟩ := List.getLast?_eq_some_iff.mp last
      obtain rfl : text = String.ofList before ++ "/" := String.toList_inj.mp (by simp [cut])
      have inside : pathOf ⟨⟨String.ofList before ++ "/"⟩, place⟩ name =
          .within (String.ofList before) name := by
        simp only [pathOf, last, Option.all_some, decide_true, if_true, String.append_empty]
        rfl
      rw [inside, Path.components_within named.whole, named.ordinary]
      rfl
    · have inside : pathOf ⟨⟨text⟩, place⟩ name = .within text name := by
        simp [pathOf, last, divided, Path.within]
      have inhabited : text ≠ "" := by
        rintro rfl
        cases last
      rw [inside, Path.components_within named.whole, named.ordinary,
        Path.components_directory inhabited]
      rfl

theorem contains_pathOf (named : IsFileName name) (other : name ≠ indexName) :
    d.Contains (d.pathOf name) name where
  components := components_pathOf named
  fileName := by simp [Path.fileName?, components_pathOf named]
  attachment := by
    have index : IsFileName indexName := ⟨by decide, by decide⟩
    intro same
    unfold Path.Same at same
    rw [components_pathOf named, components_pathOf index] at same
    obtain ⟨_, last⟩ := List.append_inj' same rfl
    exact other (String.toList_inj.mp (by simpa using last))

/-- The path of a transfer's file is the one that the lookup found. -/
theorem resolve_path : (d.resolve transferId).map Attachment.path =
    (d.findFile transferId).map fun e => d.pathOf e.name := by
  unfold resolve
  cases d.findFile transferId <;> rfl

/-- The file of a transfer is found exactly if there is one, in whatever order the directory is
listed. It is a file of the directory itself and not the index, and if there is none, that is what is
reported. -/
theorem lookup_sound_complete (d : AttachmentDirectory) (transferId : String)
    (readable : d.IsReadable) :
    d.Answers transferId (d.findFile transferId) ∧
    ((d.resolve transferId).map Attachment.path =
      (d.findFile transferId).map fun e => d.pathOf e.name) ∧
    ∀ e, d.findFile transferId = .ok e → d.Contains (d.pathOf e.name) e.name := by
  have answers : d.Answers transferId (d.findFile transferId) := findFile_answers readable.place
  refine ⟨answers, resolve_path, fun e found => ?_⟩
  obtain ⟨_, mem, holds⟩ := answers.sound e found
  exact contains_pathOf (readable.named e mem) holds.attachment

/-- A directory with one recording in it, beside a directory and a link of almost the same name. -/
def shelf : AttachmentDirectory where
  root := ⟨"/shelf/"⟩
  place := .directory [
    ⟨"take.2", .directory⟩, ⟨"take.2.wav", .link (.file [])⟩, ⟨indexName, .file []⟩,
    ⟨"take.2.flac", .file [1]⟩]

theorem lookup_sound_complete_shelf : shelf.IsReadable ∧
    (shelf.resolve "take.2").map Attachment.path = .ok ⟨"/shelf/take.2.flac"⟩ ∧
    shelf.findFile "conversations" = .error (.attachmentNotFound "conversations") ∧
    shelf.Answers "take.2" (shelf.findFile "take.2") := by
  have readable : shelf.IsReadable := by
    refine ⟨nofun, fun e mem => ?_⟩
    simp only [entries, shelf, List.mem_cons, List.not_mem_nil, or_false] at mem
    rcases mem with rfl | rfl | rfl | rfl <;> exact ⟨by decide, by decide⟩
  obtain ⟨answers, path, _⟩ := lookup_sound_complete shelf "take.2" readable
  exact ⟨readable, path.trans (by decide), by decide, answers⟩

end AttachmentDirectory
end MediaPlayback
