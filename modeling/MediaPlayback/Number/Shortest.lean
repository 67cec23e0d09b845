/-! The shortest decimal text of a number of double precision: of all decimals that read back as the
number, one with the fewest digits, and of those the nearest. All is done in whole numbers. -/

namespace MediaPlayback

/-- A number of double precision, as its 64 bits. -/
structure Double where
  bits : UInt64
deriving DecidableEq, Repr, Inhabited

namespace Double

def isNegative (d : Double) : Bool := Nat.pow 2 63 ≤ d.bits.toNat

def exponentBits (d : Double) : Nat := d.bits.toNat / Nat.pow 2 52 % Nat.pow 2 11

def fractionBits (d : Double) : Nat := d.bits.toNat % Nat.pow 2 52

/-- The whole number `m` of the form `m * 2 ^ q` of the magnitude. -/
def mantissa (d : Double) : Nat :=
  if d.exponentBits = 0 then d.fractionBits else Nat.pow 2 52 + d.fractionBits

/-- The exponent `q` of the form `m * 2 ^ q`, and 1074 more. -/
def scale (d : Double) : Nat := if d.exponentBits = 0 then 0 else d.exponentBits - 1

/-- The real numbers that read back as a given number lie between two bounds. All numbers are given
as multiples of `1 / unit`; `closed` says whether the bounds belong to them. -/
structure Interval where
  unit : Nat
  low : Nat
  value : Nat
  high : Nat
  closed : Bool
deriving Repr

/-- The interval of a number that is not zero. Below a power of two the next number is only half as
far away. -/
def interval (d : Double) : Interval :=
  let gap := Nat.pow 2 d.scale
  let value := 4 * d.mantissa * gap
  let atPower := d.fractionBits = 0 ∧ 1 < d.exponentBits
  { unit := Nat.pow 2 1076
    low := value - (if atPower then gap else 2 * gap)
    value
    high := value + 2 * gap
    closed := d.mantissa % 2 = 0 }

def Interval.contains (i : Interval) (n : Nat) : Bool :=
  if i.closed then i.low ≤ n && n ≤ i.high else i.low < n && n < i.high

/-- A decimal: digits times a power of ten. -/
structure Decimal where
  digits : Nat
  exponent : Int
deriving DecidableEq, Repr

/-- The smallest `e` for which the value is below `10 ^ e`, from `e` on upwards. -/
def Interval.magnitude (i : Interval) : Nat → Int → Int
  | 0, e => e
  | fuel + 1, e =>
    let below := if 0 ≤ e then i.value < i.unit * Nat.pow 10 e.toNat
      else i.value * Nat.pow 10 (-e).toNat < i.unit
    if below then e else i.magnitude fuel (e + 1)

/-- The decimal of the interval that is nearest to the value among the multiples of `10 ^ e`. Of two
that are equally near it is the larger one. -/
def Interval.onGrid (i : Interval) (e : Int) : Option Decimal :=
  -- everything is scaled up so that a grid step is a whole number
  let up := if 0 ≤ e then 1 else Nat.pow 10 (-e).toNat
  let step := if 0 ≤ e then i.unit * Nat.pow 10 e.toNat else i.unit
  let j : Interval :=
    { i with low := i.low * up, value := i.value * up, high := i.high * up }
  let below := j.value / step
  let above := below + 1
  let nearer := if j.value - below * step < above * step - j.value then [below, above]
    else [above, below]
  (nearer.find? fun n => 0 < n && j.contains (n * step)).map (⟨·, e⟩)

/-- The shortest decimal, with at least `count` digits and `magnitude - count` as its exponent. -/
def Interval.shortest (i : Interval) (magnitude : Int) : Nat → Nat → Option Decimal
  | 0, _ => none
  | fuel + 1, count =>
    match i.onGrid (magnitude - count) with
    | some d => some d
    | none => i.shortest magnitude fuel (count + 1)

/-- More digits than any shortest decimal has. -/
def maxDigits : Nat := 18

/-- The shortest decimal of the magnitude. -/
def shortest (d : Double) : Decimal :=
  if d.mantissa = 0 then ⟨0, 0⟩
  else
    let i := d.interval
    (i.shortest (i.magnitude 700 (-324)) maxDigits 1).getD ⟨0, 0⟩

/-- A decimal in positional notation. -/
def Decimal.positional (x : Decimal) : List Char :=
  let digits := Nat.toDigits 10 x.digits
  if 0 ≤ x.exponent then
    if x.digits = 0 then ['0'] else digits ++ List.replicate x.exponent.toNat '0'
  else
    let places := (-x.exponent).toNat
    let padded := List.replicate (places + 1 - digits.length) '0' ++ digits
    let whole := padded.take (padded.length - places)
    let fraction := ((padded.drop (padded.length - places)).reverse.dropWhile (· = '0')).reverse
    if fraction.isEmpty then whole else whole ++ '.' :: fraction

/-- The text of a number: its shortest decimal in positional notation, whatever its size. -/
def text (d : Double) : String :=
  if d.exponentBits = 2047 then
    if d.fractionBits ≠ 0 then "NaN" else if d.isNegative then "-inf" else "inf"
  else
    String.ofList ((if d.isNegative then ['-'] else []) ++ d.shortest.positional)

end Double
end MediaPlayback
