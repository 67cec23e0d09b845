import MediaPlayback.Log.Pattern
import MediaPlayback.Log.Record
import MediaPlayback.Path
import MediaPlayback.Text.Alphanumeric
import MediaPlayback.Text.Blank

/-! The directives of a log filter. In full, the text of a directive is a target, an activity and
conditions in brackets, and a level behind an equals sign: `player[seek{to=5}]=debug`. Each part may
be left out, and a level alone is a directive as well.

A directive is read one character after the other, white space around it aside. Its parts are cut out
of the text by their distances in bytes, which are counted from the first character that is read, but
laid off from the start of the text, white space included. Behind white space all parts are therefore
found too far in front, and a cut may even fall inside a character.

Every directive is read in full, but only those without an activity and without conditions are applied
exactly. For the others an entry does not tell enough: it names the innermost activity alone, and not what
that activity was begun with, which may be a path. -/

namespace MediaPlayback

/-- A condition on a field of an entry: that it is there, or that it has a value. -/
structure LogCondition where
  name : String
  value : Option String := none
deriving DecidableEq, Repr

structure LogDirective where
  /-- How the names of the parts begin that it applies to; all parts if absent. -/
  target : Option String := none
  /-- The activity during which it applies; at any time if absent. -/
  activity : Option String := none
  conditions : List LogCondition := []
  /-- The least urgent level that is kept; none if everything is dropped. -/
  level : Option LogLevel
deriving DecidableEq, Repr

/-- What is wrong with the text of a directive. -/
inductive DirectiveFault where
  /-- It does not have the form of a directive. -/
  | form
  /-- There is no level of that name. -/
  | level
  /-- The value of a condition is no pattern. -/
  | pattern
  /-- A part would be cut inside a character. -/
  | cut
deriving DecidableEq, Repr

namespace LogDirective

/-- The level that a digit stands for. -/
def levelOfNumber? : Nat → Option (Option LogLevel)
  | 0 => some none
  | 1 => some (some .error)
  | 2 => some (some .warn)
  | 3 => some (some .info)
  | 4 => some (some .debug)
  | 5 => some (some .trace)
  | _ => none

/-- The number that digits write, with or without a plus sign. -/
def number? (word : String) : Option Nat :=
  let digits := match word.toList with
    | '+' :: digits => digits
    | digits => digits
  if digits.isEmpty ∨ !digits.all Char.isDigit then none
  else some (digits.foldl (fun n c => n * 10 + (c.toNat - '0'.toNat)) 0)

/-- The level that a word stands for: its name in any case, or its number. -/
def levelOf? (word : String) : Option (Option LogLevel) :=
  match (number? word).bind levelOfNumber? with
  | some level => some level
  | none =>
    match word.toLower with
    | "" | "error" => some (some .error)
    | "warn" => some (some .warn)
    | "info" => some (some .info)
    | "debug" => some (some .debug)
    | "trace" => some (some .trace)
    | "off" => some none
    | _ => none

/-- The characters behind the first `n` bytes, unless they end inside a character. -/
def dropBytes : Nat → List Char → Except DirectiveFault (List Char)
  | 0, cs => .ok cs
  | _ + 1, [] => .error .cut
  | n, c :: cs => if c.utf8Size ≤ n then dropBytes (n - c.utf8Size) cs else .error .cut

/-- The characters of the first `n` bytes, unless they end inside a character. -/
def takeBytes : Nat → List Char → Except DirectiveFault (List Char)
  | 0, _ => .ok []
  | _ + 1, [] => .error .cut
  | n, c :: cs =>
    if c.utf8Size ≤ n then do return c :: (← takeBytes (n - c.utf8Size) cs) else .error .cut

/-- The part of a text between two distances from its start. -/
def part (text : List Char) (start stop : Nat) : Except DirectiveFault String := do
  return String.ofList (← takeBytes (stop - start) (← dropBytes start text))

/-- The part of a text behind a distance from its start. -/
def partFrom (text : List Char) (start : Nat) : Except DirectiveFault String := do
  return String.ofList (← dropBytes start text)

/-- What is being read, with the distance at which it began. -/
inductive Mode where
  | start
  /-- A target, or a level that stands alone. -/
  | name (start : Nat)
  | activity (start : Nat)
  | condition (start : Nat)
  /-- Behind the conditions. -/
  | conditionsEnd
  /-- Behind the brackets. -/
  | bracketsEnd
  | level (start : Nat)
deriving DecidableEq, Repr

/-- Whether a directive may begin with a character, brackets aside. -/
def mayBegin (c : Char) : Bool := c = '-' || c = ':' || c = '_' || isAlphanumeric c

/-- The condition of a text: the name of a field, or a name and a value with an equals sign between
them. What follows another equals sign does not count. -/
def conditionOf (text : String) : Except DirectiveFault LogCondition :=
  if text.isEmpty then .error .form
  else
    match pieces (· == '=') text.toList with
    | name :: value :: _ =>
      if LogPattern.isValue value then .ok ⟨String.ofList name, some (String.ofList value)⟩
      else .error .pattern
    | _ => .ok { name := text }

/-- Reads the character at a distance. -/
def step (text : List Char) (d : LogDirective) (mode : Mode) (i : Nat) (c : Char) :
    Except DirectiveFault (LogDirective × Mode) :=
  match mode with
  | .start =>
    if c = '[' then .ok (d, .activity (i + 1))
    else if mayBegin c then .ok (d, .name i)
    else .error .form
  | .name start =>
    if c = '=' then do return ({ d with target := some (← part text start i) }, .level (i + 1))
    else if c = '[' then do
      return ({ d with target := some (← part text start i) }, .activity (i + 1))
    else .ok (d, mode)
  | .activity start =>
    if c = ']' then do return ({ d with activity := some (← part text start i) }, .bracketsEnd)
    else if c = '\x7b' then do
      let activity ← part text start i
      return ({ d with activity := if activity.isEmpty then none else some activity },
        .condition (i + 1))
    else .ok (d, mode)
  | .condition start =>
    if c = '\x7d' then do
      return ({ d with conditions := [← conditionOf (← part text start i)] }, .conditionsEnd)
    else .ok (d, mode)
  | .conditionsEnd => if c = ']' then .ok (d, .bracketsEnd) else .error .form
  | .bracketsEnd => if c = '=' then .ok (d, .level (i + 1)) else .error .form
  | .level _ => .ok (d, mode)

/-- What has been read when the text ends. A name that is no level is a target. -/
def finish (text : List Char) (d : LogDirective) : Mode → Except DirectiveFault LogDirective
  | .name start => do
    let word ← partFrom text start
    return match levelOf? word with
      | some level => { d with level }
      | none => { d with target := some word }
  | .level start => do
    let word ← partFrom text start
    if word.isEmpty then return d
    match levelOf? word with
    | some level => return { d with level }
    | none => throw .level
  | .bracketsEnd => .ok d
  | .start | .activity _ | .condition _ | .conditionsEnd => .error .form

/-- Reads the characters behind the distance `i`. -/
def scan (text : List Char) : LogDirective → Mode → Nat → List Char →
    Except DirectiveFault LogDirective
  | d, mode, _, [] => finish text d mode
  | d, mode, i, c :: cs => do
    let (d, mode) ← step text d mode i c
    scan text d mode (i + c.utf8Size) cs

/-- The directive of a text without commas. Where no level is given everything is kept. -/
def ofChars (text : List Char) : Except DirectiveFault LogDirective :=
  scan text { level := some .trace } .start 0 (trimmed text)

/-- Whether a directive applies to an entry: the name of the part begins as the target says, the
innermost activity is the directive's, and the conditions hold of the entry's own fields. Activities
further out, and fields of activities, are not looked at. -/
def appliesTo (d : LogDirective) (r : LogRecord) : Bool :=
  d.target.all (fun start => start.toList.isPrefixOf r.target.toList) &&
    d.activity.all (some · = r.span) &&
    d.conditions.all fun c => r.fields.any fun (name, value) =>
      name = c.name && c.value.all (· = value)

/-- How particular a directive is, by its target alone: activities and conditions do not count. -/
def weight (d : LogDirective) : Nat := d.target.elim 0 (·.length + 1)

end LogDirective
end MediaPlayback
