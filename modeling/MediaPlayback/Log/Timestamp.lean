import MediaPlayback.Text.Blank

/-! Moments in universal time, exact to the nanosecond, and their text: date and time of day with a
`T` between them and a `Z` behind. Reading accepts offsets from universal time, white space between
the parts, and numbers without leading zeros. Days are counted in the Gregorian calendar, also
before it was in use. -/

namespace MediaPlayback

/-- A moment in universal time. -/
structure Timestamp where
  /-- Days since the first of January 1970. -/
  day : Int
  /-- Seconds since midnight. -/
  second : Nat
  /-- Nanoseconds since then; from 10⁹ on the moment lies in a leap second. -/
  nanos : Nat
deriving DecidableEq, Repr, Inhabited

namespace Calendar

def isLeapYear (year : Int) : Bool := year % 4 = 0 && (year % 100 ≠ 0 || year % 400 = 0)

def monthLength (year : Int) (month : Nat) : Nat :=
  if month = 2 then if isLeapYear year then 29 else 28
  else if month ∈ [4, 6, 9, 11] then 30 else 31

/-- The number of a day. Years are counted from March, so that a leap day comes last. -/
def dayNumber (year : Int) (month day : Nat) : Int :=
  let shifted := if month ≤ 2 then year - 1 else year
  let monthsSinceMarch := (month + 9) % 12
  let dayOfYear : Int := (153 * monthsSinceMarch + 2) / 5 + day - 1
  365 * shifted + shifted / 4 - shifted / 100 + shifted / 400 + dayOfYear - 719468

/-- Year, month and day of the month of a numbered day. -/
def date (number : Int) : Int × Nat × Nat :=
  let n := number + 719468
  let era := n / 146097
  let dayOfEra := (n % 146097).toNat
  let yearOfEra := (dayOfEra - dayOfEra / 1460 + dayOfEra / 36524 - dayOfEra / 146096) / 365
  let dayOfYear := dayOfEra - (365 * yearOfEra + yearOfEra / 4 - yearOfEra / 100)
  let monthsSinceMarch := (5 * dayOfYear + 2) / 153
  let day := dayOfYear - (153 * monthsSinceMarch + 2) / 5 + 1
  let month := if monthsSinceMarch < 10 then monthsSinceMarch + 3 else monthsSinceMarch - 9
  ((yearOfEra : Int) + era * 400 + if month ≤ 2 then 1 else 0, month, day)

end Calendar

namespace Timestamp

/-- A number in at least `width` digits. -/
def padded (width n : Nat) : List Char :=
  let digits := Nat.toDigits 10 n
  List.replicate (width - digits.length) '0' ++ digits

/-- A year: in four digits where they suffice, and else with its sign. -/
def yearText (year : Int) : List Char :=
  if 0 ≤ year ∧ year ≤ 9999 then padded 4 year.toNat
  else (if year < 0 then '-' else '+') :: padded 4 year.natAbs

/-- A fraction of a second: nothing, or thousandths, millionths or billionths. -/
def fractionText (nanos : Nat) : List Char :=
  if nanos = 0 then []
  else if nanos % 1000000 = 0 then '.' :: padded 3 (nanos / 1000000)
  else if nanos % 1000 = 0 then '.' :: padded 6 (nanos / 1000)
  else '.' :: padded 9 nanos

def text (t : Timestamp) : String :=
  let (year, month, day) := Calendar.date t.day
  let leap := t.nanos / 1000000000
  String.ofList (yearText year ++ '-' :: padded 2 month ++ '-' :: padded 2 day ++
    'T' :: padded 2 (t.second / 3600) ++ ':' :: padded 2 (t.second / 60 % 60) ++
    ':' :: padded 2 (t.second % 60 + leap) ++ fractionText (t.nanos % 1000000000) ++ ['Z'])

/-- Reads a number of at least one and, if there is a limit, at most so many digits. -/
def number? (limit : Option Nat) (cs : List Char) : Option (Nat × List Char) :=
  let digits := cs.takeWhile Char.isDigit
  let digits := match limit with
    | some limit => digits.take limit
    | none => digits
  if digits.isEmpty then none
  else some (digits.foldl (fun n c => n * 10 + (c.toNat - '0'.toNat)) 0, cs.drop digits.length)

/-- Reads a number of at most two digits between bounds, after white space. -/
def within? (low high : Nat) (cs : List Char) : Option (Nat × List Char) := do
  let (n, cs) ← number? (some 2) (trimStart cs)
  if low ≤ n ∧ n ≤ high then some (n, cs) else none

def mark? (c : Char) (cs : List Char) : Option (List Char) :=
  match trimStart cs with
  | d :: rest => if c = d then some rest else none
  | [] => none

/-- Reads a year. More than four digits need a sign. -/
def year? (cs : List Char) : Option (Int × List Char) :=
  match trimStart cs with
  | '-' :: rest => (number? none rest).map fun (n, rest) => (-(n : Int), rest)
  | '+' :: rest => (number? none rest).map fun (n, rest) => ((n : Int), rest)
  | cs => (number? (some 4) cs).map fun (n, rest) => ((n : Int), rest)

/-- The first and the last day that a moment can lie on: the first one of the year -262143 and the
last one of the year 262142. -/
def dayBounds : Int × Int := (Calendar.dayNumber (-262143) 1 1, Calendar.dayNumber 262142 12 31)

def isInBounds (day : Int) : Bool := dayBounds.1 ≤ day && day ≤ dayBounds.2

def date? (cs : List Char) : Option (Int × List Char) := do
  let (year, cs) ← year? cs
  let cs ← mark? '-' cs
  let (month, cs) ← within? 1 12 cs
  let cs ← mark? '-' cs
  let (day, cs) ← within? 1 31 cs
  let number := Calendar.dayNumber year month day
  if day ≤ Calendar.monthLength year month ∧ isInBounds number then some (number, cs) else none

/-- Reads a fraction of a second, if there is one. Digits behind the ninth do not count. -/
def fraction? : List Char → Option (Nat × List Char)
  | '.' :: cs => do
    let (n, rest) ← number? (some 9) cs
    some (n * Nat.pow 10 (9 - (cs.length - rest.length)), rest.dropWhile Char.isDigit)
  | cs => some (0, cs)

def twoDigits? : List Char → Option (Nat × List Char)
  | a :: b :: rest =>
    if a.isDigit ∧ b.isDigit then
      some ((a.toNat - '0'.toNat) * 10 + (b.toNat - '0'.toNat), rest)
    else none
  | _ => none

/-- Reads the seconds by which a time is ahead of universal time. -/
def offset? (cs : List Char) : Option (Int × List Char) :=
  match cs with
  | 'z' :: rest | 'Z' :: rest => some (0, rest)
  | u :: t :: c :: rest =>
    if [u, t, c].map Char.toUpper = ['U', 'T', 'C'] then some (0, rest) else signed? cs
  | cs => signed? cs
where
  /-- Reads hours and minutes behind a sign. -/
  signed? : List Char → Option (Int × List Char)
    | [] => none
    | sign :: cs => do
      let factor ← if sign = '+' then some 1
        else if sign = '-' ∨ sign = '−' then some (-1) else none
      let (hours, cs) ← twoDigits? cs
      let (minutes, cs) ← twoDigits? (cs.dropWhile fun c => c = ':' || isWhiteSpace c)
      if minutes < 60 ∧ hours < 24 then
        some (factor * ((hours * 3600 + minutes * 60 : Nat) : Int), cs)
      else none

/-- The moment that is `seconds` before a local date and time. -/
def shifted (day : Int) (second nanos : Nat) (seconds : Int) : Timestamp :=
  let total := day * 86400 + second - seconds
  ⟨total / 86400, (total % 86400).toNat, nanos⟩

/-- Reads a moment. The sixtieth second of a minute is a leap second. The day must be in bounds both
where the offset holds and in universal time. -/
def ofText? (text : String) : Option Timestamp := do
  let (day, cs) ← date? text.toList
  let cs ← match cs with
    | 't' :: rest | 'T' :: rest | ' ' :: rest => some rest
    | _ => none
  let (hour, cs) ← within? 0 23 cs
  let cs ← mark? ':' cs
  let (minute, cs) ← within? 0 59 cs
  let cs ← mark? ':' cs
  let (second, cs) ← within? 0 60 cs
  let (nanos, cs) ← fraction? cs
  let (offset, cs) ← offset? (trimStart cs)
  if !(trimStart cs).isEmpty then none
  let (second, nanos) := if second = 60 then (59, nanos + 1000000000) else (second, nanos)
  let moment := shifted day (hour * 3600 + minute * 60 + second) nanos offset
  if isInBounds moment.day then some moment else none

end Timestamp
end MediaPlayback
