import MediaPlayback.Json.Draft

/-! Numerals. A numeral without sign, point and exponent that fits into 64 bits is a whole number;
any other one stands for the nearest number of double precision, and cannot be read if that would be
infinite. -/

namespace MediaPlayback.Json

/-- What comes of a numeral: what it stands for, and what follows it. -/
structure Numeral where
  value : Except Fault Draft
  rest : Except Fault (List Char)

namespace Numeral

/-- A numeral to which a digit is missing, in front of `rest`. A reader that gets to the end of the
text says so; one that passes over it does not care why. -/
def lacksDigit (rest : List Char) : Numeral :=
  ⟨.error (if rest.isEmpty then .truncated else .malformed), .error .malformed⟩

def fault : Numeral := ⟨.error .malformed, .error .malformed⟩

/-- The largest whole number of 64 bits. -/
def maxWhole : Nat := Nat.pow 2 64 - 1

def digitValue (c : Char) : Nat := c.toNat - '0'.toNat

/-- A number as a whole number of 64 bits times a power of ten. -/
structure Scaled where
  whole : Nat := 0
  exponent : Int := 0
deriving Repr

/-- Takes a digit before the point. From the first one on that does not fit, digits only count. -/
def Scaled.digit (s : Scaled) (c : Char) : Scaled :=
  let whole := s.whole * 10 + digitValue c
  if s.exponent = 0 ∧ whole ≤ maxWhole then { s with whole } else { s with exponent := s.exponent + 1 }

/-- Takes digits behind the point, up to the first one that does not fit. -/
def Scaled.fraction : Scaled → List Char → Scaled
  | s, [] => s
  | s, c :: cs =>
    let whole := s.whole * 10 + digitValue c
    if whole ≤ maxWhole then Scaled.fraction ⟨whole, s.exponent - 1⟩ cs else s

/-- A whole number rounded to the 53 highest bits, to even at a tie. -/
def rounded (n : Nat) : Nat :=
  let shift := n.log2 - 52
  let unit := Nat.pow 2 shift
  let low := n / unit
  let rest := n % unit * 2
  if rest > unit ∨ (rest = unit ∧ low % 2 = 1 ∧ 0 < shift) then (low + 1) * unit else low * unit

/-- From here on a product rounds to infinity. -/
def infinite : Nat := Nat.pow 2 1024 - Nat.pow 2 970

/-- The largest power of ten that is finite in double precision. -/
def maxPower : Nat := 308

/-- Whether the number is infinite in double precision. -/
def Scaled.isInfinite (s : Scaled) : Bool :=
  0 < s.whole && 0 ≤ s.exponent &&
    (maxPower < s.exponent.toNat ||
      infinite ≤ rounded s.whole * rounded (Nat.pow 10 s.exponent.toNat))

/-- The largest exponent that is read as a number. -/
def maxExponent : Nat := Nat.pow 2 31 - 1

/-- The number, moved by an exponent. -/
def Scaled.shifted (s : Scaled) (negative : Bool) (digits : List Char) : Except Fault Scaled :=
  let n := digits.foldl (fun n c => min (maxExponent + 1) (n * 10 + digitValue c)) 0
  if maxExponent < n then
    if s.whole ≠ 0 ∧ !negative then .error .malformed else .ok { whole := 0 }
  else .ok { s with exponent := if negative then s.exponent - n else s.exponent + n }

/-- The numeral of a number that is no whole number, with its characters. -/
def real (literal : List Char) (s : Except Fault Scaled) (rest : List Char) : Numeral :=
  ⟨match s with
    | .error f => .error f
    | .ok s => if s.isInfinite then .error .malformed else .ok (.number literal), .ok rest⟩

/-- Reads the exponent, if there is one, of the number `s` that was written as `literal`. -/
def exponent (literal : List Char) (s : Scaled) (rest : List Char) : Numeral :=
  match rest with
  | e :: behind =>
    if e = 'e' ∨ e = 'E' then
      let (sign, digits) := match behind with
        | '+' :: cs => (['+'], cs)
        | '-' :: cs => (['-'], cs)
        | cs => ([], cs)
      let taken := digits.takeWhile Char.isDigit
      let rest := digits.dropWhile Char.isDigit
      if taken.isEmpty then lacksDigit rest
      else real (literal ++ e :: sign ++ taken) (s.shifted (sign = ['-']) taken) rest
    else real literal (.ok s) rest
  | [] => real literal (.ok s) []

/-- Reads what follows the digits before the point. -/
def afterWhole (negative : Bool) (digits rest : List Char) : Numeral :=
  let s := digits.foldl Scaled.digit {}
  let literal := if negative then '-' :: digits else digits
  match rest with
  | '.' :: behind =>
    let taken := behind.takeWhile Char.isDigit
    let rest := behind.dropWhile Char.isDigit
    if taken.isEmpty then lacksDigit rest
    else exponent (literal ++ '.' :: taken) (s.fraction taken) rest
  | c :: _ =>
    if c = 'e' ∨ c = 'E' then exponent literal s rest
    else if s.exponent = 0 ∧ !negative then ⟨.ok (.nat s.whole), .ok rest⟩
    else real literal (.ok s) rest
  | [] =>
    if s.exponent = 0 ∧ !negative then ⟨.ok (.nat s.whole), .ok []⟩ else real literal (.ok s) []

/-- Reads a numeral behind its sign. No digit may follow a zero at its start. -/
def unsigned (negative : Bool) : List Char → Numeral
  | '0' :: rest =>
    if (rest.head?.any Char.isDigit) then fault else afterWhole negative ['0'] rest
  | c :: rest =>
    if c.isDigit then
      afterWhole negative (c :: rest.takeWhile Char.isDigit) (rest.dropWhile Char.isDigit)
    else fault
  | [] => lacksDigit []

end Numeral

def numeral : List Char → Numeral
  | '-' :: rest => Numeral.unsigned true rest
  | cs => Numeral.unsigned false cs

end MediaPlayback.Json
