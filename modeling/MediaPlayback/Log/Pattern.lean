import MediaPlayback.Text.Alphanumeric
import MediaPlayback.Text.Hexadecimal

/-! Patterns for the values of fields: regular expressions. Here it is only asked whether one is well
formed. Counted repetitions are not among the patterns, nor is what would need tables of characters:
classes with names such as `\d`, the bounds of words, and matching that ignores case. -/

namespace MediaPlayback.LogPattern

/-- The character that a letter behind a backslash stands for. -/
def control? : Char → Option Char
  | 'a' => some (Char.ofNat 7)
  | 't' => some '\t'
  | 'n' => some '\n'
  | 'v' => some (Char.ofNat 11)
  | 'f' => some (Char.ofNat 12)
  | 'r' => some '\r'
  | _ => none

/-- The character whose number is written in so many hexadecimal digits, and what follows them. -/
def numbered? (digits : Nat) (cs : List Char) : Option (Char × List Char) := do
  if cs.length < digits then none
  let n ← hexValue? (cs.take digits)
  if n.isValidChar then some (Char.ofNat n, cs.drop digits) else none

/-- The character that is escaped behind a backslash, and what follows it. Marks of all kinds may be
escaped, angle brackets excepted. -/
def escaped? : List Char → Option (Char × List Char)
  | [] => none
  | 'x' :: rest => numbered? 2 rest
  | 'u' :: rest => numbered? 4 rest
  | 'U' :: rest => numbered? 8 rest
  | c :: rest =>
    match control? c with
    | some c => some (c, rest)
    | none =>
      if c.toNat < 128 ∧ !c.isAlphanum ∧ c ≠ '<' ∧ c ≠ '>' then some (c, rest) else none

/-- One character in brackets, and what follows it. -/
def member? : List Char → Option (Char × List Char)
  | [] => none
  | '\\' :: rest => escaped? rest
  | c :: rest => some (c, rest)

/-- The names of classes of ASCII characters. -/
def classNames : List String :=
  ["alnum", "alpha", "ascii", "blank", "cntrl", "digit", "graph", "lower", "print", "punct", "space",
    "upper", "word", "xdigit"]

/-- Behind a bracket inside brackets: what follows the name of a class, if there is one. -/
def namedClass? : List Char → Option (List Char)
  | ':' :: rest =>
    let rest := match rest with
      | '^' :: rest => rest
      | rest => rest
    match rest.dropWhile (· ≠ ':') with
    | ':' :: ']' :: behind =>
      if String.ofList (rest.takeWhile (· ≠ ':')) ∈ classNames then some behind else none
    | _ => none
  | _ => none

/-- What stands in brackets behind their marks of the beginning: a caret, hyphens that stand for
themselves, or a closing bracket that does so. -/
def opened (cs : List Char) : List Char :=
  let cs := match cs with
    | '^' :: rest => rest
    | cs => cs
  match cs with
  | '-' :: _ => cs.dropWhile (· = '-')
  | ']' :: rest => rest
  | cs => cs

/-- What follows a class in brackets of which `depth` further ones are open inside, read in at most
`fuel` steps. -/
def closed? : Nat → Nat → List Char → Option (List Char)
  | 0, _, _ => none
  | _, _, [] => none
  | fuel + 1, depth, ']' :: rest => if depth = 0 then some rest else closed? fuel (depth - 1) rest
  | fuel + 1, depth, '[' :: rest =>
    match namedClass? rest with
    | some rest => closed? fuel depth rest
    | none => closed? fuel (depth + 1) (opened rest)
  | fuel + 1, depth, '&' :: '&' :: rest => closed? fuel depth rest
  | fuel + 1, depth, '-' :: '-' :: rest => closed? fuel depth rest
  | fuel + 1, depth, '~' :: '~' :: rest => closed? fuel depth rest
  | fuel + 1, depth, cs => do
    let (low, rest) ← member? cs
    match rest with
    | '-' :: ']' :: _ | '-' :: '-' :: _ => closed? fuel depth rest
    | '-' :: rest =>
      let (high, rest) ← member? rest
      if low ≤ high then closed? fuel depth rest else none
    | rest => closed? fuel depth rest

/-- What follows the opening parenthesis of a group. -/
inductive Opening where
  /-- The group itself, with its name if it has one. -/
  | group (name : Option (List Char)) (rest : List Char)
  /-- Options and the closing parenthesis: no group. -/
  | options (rest : List Char)

def isGroupName (name : List Char) : Bool :=
  match name with
  | [] => false
  | c :: rest =>
    (c = '_' || (isAlphanumeric c && !c.isDigit)) &&
      rest.all fun c => c = '_' || c = '.' || c = '[' || c = ']' || isAlphanumeric c

/-- Whether letters are options, with those behind a hyphen switched off. -/
def areOptions (letters : List Char) : Bool :=
  letters.all (· ∈ ['i', 'm', 's', 'U', 'u', 'R', 'x', '-']) && decide letters.Nodup &&
    letters.getLast? ≠ some '-' && 'i' ∉ letters.takeWhile (· ≠ '-')

/-- Reads what follows an opening parenthesis. -/
def opening? : List Char → Option Opening
  | '?' :: 'P' :: '<' :: rest | '?' :: '<' :: rest =>
    let name := rest.takeWhile (· ≠ '>')
    match rest.dropWhile (· ≠ '>') with
    | _ :: behind => if isGroupName name then some (.group (some name) behind) else none
    | [] => none
  | '?' :: rest =>
    let letters := rest.takeWhile fun c => c ≠ ':' && c ≠ ')'
    if !areOptions letters then none
    else
      match rest.dropWhile fun c => c ≠ ':' && c ≠ ')' with
      | ':' :: behind => some (.group none behind)
      | ')' :: behind => if letters.isEmpty then none else some (.options behind)
      | _ => none
  | rest => some (.group none rest)

/-- Whether a pattern goes on well in at most `fuel` steps: inside `depth` groups, behind the names of
groups, and behind something that can be repeated or not. -/
def goesOn : Nat → Nat → List (List Char) → Bool → List Char → Bool
  | 0, _, _, _, _ => false
  | _, depth, _, _, [] => depth = 0
  | fuel + 1, depth, names, repeatable, c :: rest =>
    match c with
    | '(' =>
      match opening? rest with
      | some (.group none rest) => goesOn fuel (depth + 1) names false rest
      | some (.group (some name) rest) =>
        name ∉ names && goesOn fuel (depth + 1) (name :: names) false rest
      | some (.options rest) => goesOn fuel depth names false rest
      | none => false
    | ')' => depth ≠ 0 && goesOn fuel (depth - 1) names true rest
    | '|' => goesOn fuel depth names false rest
    | '*' | '+' | '?' =>
      let rest := match rest with
        | '?' :: rest => rest
        | rest => rest
      repeatable && goesOn fuel depth names true rest
    | '\x7b' => false
    | '[' =>
      match closed? (rest.length + 1) 0 (opened rest) with
      | some rest => goesOn fuel depth names true rest
      | none => false
    | '\\' =>
      match rest with
      | 'A' :: rest | 'z' :: rest => goesOn fuel depth names true rest
      | rest =>
        match escaped? rest with
        | some (_, rest) => goesOn fuel depth names true rest
        | none => false
    | _ => goesOn fuel depth names true rest

def isPattern (cs : List Char) : Bool := goesOn (cs.length + 1) 0 [] false cs

/-- Whether characters are a number with a fraction, an exponent or both, or one of the words that
stand for a number. -/
def isReal (cs : List Char) : Bool :=
  let whole := cs.takeWhile Char.isDigit
  let (fraction, rest) := match cs.dropWhile Char.isDigit with
    | '.' :: rest => (rest.takeWhile Char.isDigit, rest.dropWhile Char.isDigit)
    | rest => ([], rest)
  let exponent := match rest with
    | [] => true
    | e :: '+' :: digits | e :: '-' :: digits | e :: digits =>
      (e = 'e' || e = 'E') && !digits.isEmpty && digits.all Char.isDigit
  String.ofList (cs.map Char.toLower) ∈ ["inf", "infinity", "nan"] ||
    (!(whole.isEmpty && fraction.isEmpty) && exponent)

/-- Whether a text can be the value of a condition: a number with a sign, or a pattern. Numbers
without a sign and truth values are patterns too. -/
def isValue (cs : List Char) : Bool :=
  match cs with
  | '+' :: magnitude => isReal magnitude
  | cs => isPattern cs

end MediaPlayback.LogPattern
