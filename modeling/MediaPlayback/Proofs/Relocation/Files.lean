import MediaPlayback.Path

/-! Files that are moved to other directories. They keep their names, and two of them are the same file
exactly if they were so before. -/

namespace MediaPlayback

/-- Which files of one run correspond to which files of another. -/
structure FileMove where
  moves : Path → Path → Prop
  /-- Paths name one file in one run exactly if they do so in the other. -/
  same_iff : ∀ {p p' q q' : Path}, moves p p' → moves q q' → (p'.Same q' ↔ p.Same q)
  /-- Files keep their names. A path that does not end in a name stands for its own name, so that it
  corresponds to itself only. -/
  fileName : ∀ {p p' : Path}, moves p p' → p'.fileName = p.fileName
  baseName : ∀ {p p' : Path}, moves p p' → baseName p'.text = baseName p.text

section Pieces

variable {isMark : Char → Bool}

theorem pieces_append {mark : Char} (marks : isMark mark) (xs ys : List Char) :
    pieces isMark (xs ++ mark :: ys) = pieces isMark xs ++ pieces isMark ys := by
  induction xs with
  | nil => simp [pieces, marks]
  | cons c cs ih =>
    rw [List.cons_append, pieces, pieces, ih]
    split
    · rfl
    · cases first : pieces isMark cs with
      | nil => exact absurd first (pieces_ne_nil isMark cs)
      | cons => rfl

theorem pieces_of_unmarked {xs : List Char} (unmarked : ∀ c ∈ xs, isMark c = false) :
    pieces isMark xs = [xs] := by
  induction xs with
  | nil => rfl
  | cons c cs ih =>
    rw [pieces, ih fun c mem => unmarked c (List.mem_cons_of_mem _ mem)]
    simp [unmarked c List.mem_cons_self]

end Pieces

/-- A text is a name that a file can have in a directory. -/
structure IsFileName (name : String) : Prop where
  whole : '/' ∉ name.toList
  ordinary : Component.ofSegment? name.toList = some (.normal name.toList)

namespace Path

/-- A directory, as a path. -/
def directory (text : String) : Path := ⟨text ++ "/"⟩

/-- A file in a directory. -/
def within (text name : String) : Path := ⟨text ++ "/" ++ name⟩

theorem segments_of_whole {name : String} (whole : '/' ∉ name.toList) :
    pieces (· == '/') name.toList = [name.toList] := by
  refine pieces_of_unmarked fun c mem => beq_eq_false_iff_ne.mpr ?_
  rintro rfl
  exact whole mem

theorem segments_within {text name : String} (whole : '/' ∉ name.toList) :
    (within text name).segments = segments ⟨text⟩ ++ [name.toList] := by
  have cut : (within text name).text.toList = text.toList ++ '/' :: name.toList := by
    simp [within]
  rw [segments, cut, pieces_append (by rfl), segments_of_whole whole]
  rfl

/-- The components of a file in a directory are those of the directory and the file's own. -/
theorem components_within {text name : String} (whole : '/' ∉ name.toList) :
    (within text name).components =
      (directory text).components ++ (Component.ofSegment? name.toList).toList := by
  have alone : directory text = within text "" := by simp [directory, within]
  have absolute : (within text name).isAbsolute = (directory text).isAbsolute := by
    cases first : text.toList <;> simp [isAbsolute, within, directory, first]
  obtain ⟨first, rest, cut⟩ := List.exists_cons_of_ne_nil (pieces_ne_nil (· == '/') text.toList)
  have segments_eq : ∀ name : String, '/' ∉ name.toList →
      (within text name).segments = first :: (rest ++ [name.toList]) := by
    intro name whole
    rw [segments_within whole, segments, cut]
    rfl
  have last : ∀ before : List (List Char),
      (before ++ [name.toList]).filterMap Component.ofSegment? =
        (before ++ ["".toList]).filterMap Component.ofSegment? ++
          (Component.ofSegment? name.toList).toList := by
    intro before
    have nothing : Component.ofSegment? [] = none := rfl
    rw [List.filterMap_append, List.filterMap_append]
    cases own : Component.ofSegment? name.toList <;> simp [own, nothing]
  unfold components
  rw [absolute, segments_eq name whole, alone, segments_eq "" (by simp), ← alone]
  split
  · exact congrArg (Component.root :: ·) (last (first :: rest))
  · by_cases here : first = ['.']
    · subst here
      exact congrArg (Component.current :: ·) (last rest)
    · split
      case h_1 dot => exact absurd (List.cons.inj dot).1 here
      case h_2 =>
        split
        case h_1 dot => exact absurd (List.cons.inj dot).1 here
        case h_2 => exact last (first :: rest)

theorem same_within_iff {text text' name name' : String} (named : IsFileName name)
    (named' : IsFileName name') : (within text name).Same (within text' name') ↔
      (directory text).Same (directory text') ∧ name = name' := by
  unfold Same
  rw [components_within named.whole, components_within named'.whole, named.ordinary,
    named'.ordinary]
  constructor
  · intro same
    obtain ⟨directories, names⟩ := List.append_inj' same rfl
    exact ⟨directories, String.toList_inj.mp (by simpa using names)⟩
  · rintro ⟨directories, rfl⟩
    rw [directories]

theorem fileName_within {text name : String} (named : IsFileName name) :
    (within text name).fileName = name := by
  have last : (within text name).components.getLast? = some (.normal name.toList) := by
    rw [components_within named.whole, named.ordinary]
    simp
  simp [fileName, fileName?, last]

theorem baseName_within (text name : String) : baseName (within text name).text = baseName name := by
  have cut : (within text name).text.toList = text.toList ++ '/' :: name.toList := by
    simp [within]
  have parted : pieces (fun c => c == '/' || c == '\\') (text.toList ++ '/' :: name.toList) =
      pieces _ text.toList ++ pieces _ name.toList := pieces_append rfl _ _
  rw [← cut] at parted
  simp only [baseName, parted]
  rw [List.getLast_append_of_ne_nil _ (pieces_ne_nil _ _)]

end Path

/-- Files that keep their names when their directories are moved. Directories that are the same in one
run have to be so in the other. -/
def FileMove.ofDirectories (moves : String → String → Prop)
    (same_iff : ∀ {d d' e e' : String}, moves d d' → moves e e' →
      ((Path.directory d').Same (Path.directory e') ↔ (Path.directory d).Same (Path.directory e))) :
    FileMove where
  moves p p' := ∃ d d' name, moves d d' ∧ IsFileName name ∧ p = .within d name ∧ p' = .within d' name
  same_iff := by
    rintro _ _ _ _ ⟨d, d', name, moved, named, rfl, rfl⟩ ⟨e, e', other, moved', named', rfl, rfl⟩
    rw [Path.same_within_iff named named', Path.same_within_iff named named', same_iff moved moved']
  fileName := by
    rintro _ _ ⟨d, d', name, moved, named, rfl, rfl⟩
    rw [Path.fileName_within named, Path.fileName_within named]
  baseName := by
    rintro _ _ ⟨d, d', name, moved, named, rfl, rfl⟩
    rw [Path.baseName_within, Path.baseName_within]

end MediaPlayback
