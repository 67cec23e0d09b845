/-! File paths as text, and what their spelling means. Two spellings name the same file exactly if
they have the same components: repeated and trailing slashes and inner `.` segments are no
components, `..` is one, and a leading `.` is one. -/

namespace MediaPlayback

/-- A file path, as it was spelled. -/
structure Path where
  text : String
deriving DecidableEq, Repr, Inhabited

/-- A part of a path that its identity depends on. -/
inductive Component where
  | root
  | current
  | parent
  | normal (name : List Char)
deriving DecidableEq, Repr

/-- The pieces of `cs` between the characters that `isMark` accepts; there is always one more piece
than there are marks. -/
def pieces (isMark : Char → Bool) : List Char → List (List Char)
  | [] => [[]]
  | c :: cs =>
    if isMark c then [] :: pieces isMark cs
    else
      match pieces isMark cs with
      | [] => [[c]]
      | p :: ps => (c :: p) :: ps

theorem pieces_ne_nil (isMark : Char → Bool) (cs : List Char) : pieces isMark cs ≠ [] := by
  cases cs with
  | nil => simp [pieces]
  | cons c cs =>
    simp only [pieces]
    split
    · simp
    · split <;> simp

/-- The component that a segment after the first one stands for. -/
def Component.ofSegment? (segment : List Char) : Option Component :=
  if segment = [] ∨ segment = ['.'] then none
  else if segment = ['.', '.'] then some .parent
  else some (.normal segment)

/-- The name of a component; the root has none. -/
def Component.name : Component → List Char
  | .root => []
  | .current => ['.']
  | .parent => ['.', '.']
  | .normal name => name

/-- The number of bytes that characters take. -/
def byteLength (cs : List Char) : Nat := cs.foldl (fun bytes c => bytes + c.utf8Size) 0

namespace Path

def segments (p : Path) : List (List Char) := pieces (· == '/') p.text.toList

def isAbsolute (p : Path) : Bool := p.text.toList.head? == some '/'

def components (p : Path) : List Component :=
  if p.isAbsolute then .root :: p.segments.filterMap Component.ofSegment?
  else
    match p.segments with
    | ['.'] :: rest => .current :: rest.filterMap Component.ofSegment?
    | segments => segments.filterMap Component.ofSegment?

/-- Whether two spellings name the same file. -/
def Same (p q : Path) : Prop := p.components = q.components

instance (p q : Path) : Decidable (p.Same q) := inferInstanceAs (Decidable (_ = _))

theorem Same.refl (p : Path) : p.Same p := rfl

theorem Same.symm {p q : Path} (h : p.Same q) : q.Same p := Eq.symm h

theorem Same.trans {p q r : Path} (h : p.Same q) (h' : q.Same r) : p.Same r := Eq.trans h h'

/-- What a path is hashed by. It is first the names of its components one behind the other, without
the root, so that an absolute path and its relative twin are hashed alike. A word that each name
turns by two bits after adding its length tells most of the ways apart in which the same text splits
into names. -/
def hashKey (p : Path) : List Char × BitVec 64 :=
  let names := (p.components.filter (· ≠ .root)).map Component.name
  (names.flatten,
    names.foldl (fun word name => (word + .ofNat 64 (byteLength name)).rotateRight 2) 0)

theorem Same.hashKey {p q : Path} (h : p.Same q) : p.hashKey = q.hashKey := by
  unfold Path.hashKey
  rw [show p.components = q.components from h]

/-- The last component, if it is a name. -/
def fileName? (p : Path) : Option String :=
  match p.components.getLast? with
  | some (.normal name) => some (String.ofList name)
  | _ => none

/-- The last component if it is a name, and else the whole spelling. -/
def fileName (p : Path) : String := p.fileName?.getD p.text

end Path

/-- A file's name without its last extension. A dot at the start opens no extension. -/
def stem (name : List Char) : List Char :=
  if name = ['.', '.'] then name
  else
    match name.reverse.dropWhile (· != '.') with
    | [] => name
    | [_] => name
    | _ :: before => before.reverse

/-- What follows the last slash or backslash of a text. Log entries carry paths in this form, so
that no directory is seen in them. -/
def baseName (text : String) : String :=
  String.ofList ((pieces (fun c => c == '/' || c == '\\') text.toList).getLast (pieces_ne_nil _ _))

end MediaPlayback
