import MediaPlayback.Json.Numeral
import MediaPlayback.Number.Shortest

/-! The numbers of double precision that numerals stand for. They are reached by rounding more than
once, and need not be the nearest ones: the digits are rounded, and so are the powers of ten by which
they are multiplied or divided. -/

namespace MediaPlayback.Json

namespace Numeral

def powerOfTen (n : Nat) : Float := Float.ofScientific 1 false n

/-- A number divided by a power of ten, in several steps if the power is too large. -/
def divided (f : Float) (n : Nat) : Float :=
  if n ≤ maxPower then f / powerOfTen n
  else if f == 0 then f
  else divided (f / powerOfTen maxPower) (n - maxPower)
termination_by n
decreasing_by
  simp only [maxPower] at *
  omega

/-- The number in double precision. -/
def Scaled.toFloat (s : Scaled) : Float :=
  let f := (UInt64.ofNat s.whole).toFloat
  if s.whole = 0 then f
  else if 0 ≤ s.exponent then f * powerOfTen s.exponent.toNat
  else divided f s.exponent.natAbs

/-- The magnitude of a number that was written as a numeral without sign. -/
def Scaled.ofLiteral (literal : List Char) : Scaled :=
  let s := (literal.takeWhile Char.isDigit).foldl Scaled.digit {}
  let (s, rest) := match literal.dropWhile Char.isDigit with
    | '.' :: cs => (s.fraction (cs.takeWhile Char.isDigit), cs.dropWhile Char.isDigit)
    | cs => (s, cs)
  match rest with
  | _ :: '-' :: digits => (s.shifted true digits).toOption.getD {}
  | _ :: '+' :: digits | _ :: digits => (s.shifted false digits).toOption.getD {}
  | [] => s

end Numeral

/-- The number of a value in double precision, if it is a number. -/
def double? : Json → Option Double
  | .nat n => some ⟨(UInt64.ofNat n).toFloat.toBits⟩
  | .number ('-' :: literal) => some ⟨(-(Numeral.Scaled.ofLiteral literal).toFloat).toBits⟩
  | .number literal => some ⟨(Numeral.Scaled.ofLiteral literal).toFloat.toBits⟩
  | _ => none

end MediaPlayback.Json
