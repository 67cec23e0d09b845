/-! Lengths of time, exact to the nanosecond, and the text that diagnostics print for them: the
largest unit that is not zero, with the fewest fraction digits that lose nothing. -/

namespace MediaPlayback

/-- A length of time in whole nanoseconds. -/
structure Duration where
  nanos : Nat
deriving DecidableEq, Repr, Inhabited

namespace Duration

def zero : Duration := ⟨0⟩

/-- Nanoseconds in a second. -/
def second : Nat := 1000000000

/-- Nanoseconds in a millisecond. -/
def millisecond : Nat := 1000000

def ofMillis (n : Nat) : Duration := ⟨n * millisecond⟩

def ofSeconds (n : Nat) : Duration := ⟨n * second⟩

/-- The length of `secs` seconds and `nanos` nanoseconds. -/
def ofParts (secs nanos : Nat) : Duration := ⟨secs * second + nanos⟩

def seconds (d : Duration) : Nat := d.nanos / second

/-- Nanoseconds beyond the whole seconds. -/
def subsecNanos (d : Duration) : Nat := d.nanos % second

/-- Whole milliseconds. -/
def millis (d : Duration) : Nat := d.nanos / millisecond

/-- Whole milliseconds as a 64-bit word: longer times wrap around. -/
def millis64 (d : Duration) : UInt64 := .ofNat d.millis

def isZero (d : Duration) : Bool := d.nanos == 0

instance : LE Duration := ⟨fun a b => a.nanos ≤ b.nanos⟩

instance (a b : Duration) : Decidable (a ≤ b) := inferInstanceAs (Decidable (a.nanos ≤ b.nanos))

instance : LT Duration := ⟨fun a b => a.nanos < b.nanos⟩

instance (a b : Duration) : Decidable (a < b) := inferInstanceAs (Decidable (a.nanos < b.nanos))

instance : Add Duration := ⟨fun a b => ⟨a.nanos + b.nanos⟩⟩

theorem ofParts_seconds_subsecNanos (d : Duration) : ofParts d.seconds d.subsecNanos = d := by
  cases d
  simp only [ofParts, seconds, subsecNanos, mk.injEq]
  exact Nat.div_add_mod' _ _

/-- The decimal digits of `n`, in front of which zeros are put up to `width` digits. -/
def padded (width n : Nat) : List Char :=
  let digits := Nat.toDigits 10 n
  List.replicate (width - digits.length) '0' ++ digits

/-- A fraction of `width` digits with its point, less the zeros at its end; nothing for zero. -/
def fraction (width n : Nat) : List Char :=
  match ((padded width n).reverse.dropWhile (· == '0')).reverse with
  | [] => []
  | digits => '.' :: digits

/-- The whole part, the fraction of `width` digits, and the unit. -/
def written (whole part width : Nat) (unit : String) : String :=
  String.ofList (Nat.toDigits 10 whole ++ (if part = 0 then [] else fraction width part)) ++ unit

/-- The length in the largest of the units s, ms, µs and ns that it reaches: `1.5s`, `500ms`. -/
def debug (d : Duration) : String :=
  if second ≤ d.nanos then written d.seconds d.subsecNanos 9 "s"
  else if millisecond ≤ d.nanos then written (d.nanos / millisecond) (d.nanos % millisecond) 6 "ms"
  else if 1000 ≤ d.nanos then written (d.nanos / 1000) (d.nanos % 1000) 3 "µs"
  else written d.nanos 0 0 "ns"

end Duration
end MediaPlayback
