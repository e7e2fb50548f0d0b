import Catalogue.Number.Decimal
import Catalogue.Text.Space

/-! Points in time: seconds since the start of 1970 and nanoseconds within the
second. They are written in universal time as year, month, day and time of day,
and read with any offset from it. -/
namespace Catalogue

open Number

/-- A point in time. During a leap second the nanoseconds go on beyond a thousand million. -/
structure Timestamp where
  seconds : Int
  nanos : Nat
  deriving DecidableEq, Repr, Inhabited

namespace Timestamp

/-- A thousand million. -/
def nanosPerSecond : Nat := 1000000000

/-! ### Calendar -/

/-- The day, counted from the first of January 1970, of a date of the Gregorian calendar. -/
def dayOf (year : Int) (month day : Nat) : Int :=
  let y := if month ≤ 2 then year - 1 else year
  let era := y.fdiv 400
  let yearOfEra := y - era * 400
  let dayOfYear : Int := (153 * ((month + 9) % 12) + 2) / 5 + day - 1
  era * 146097 + (yearOfEra * 365 + yearOfEra / 4 - yearOfEra / 100 + dayOfYear) - 719468

/-- The date of a day that is counted from the first of January 1970. -/
def dateOf (days : Int) : Int × Nat × Nat :=
  let z := days + 719468
  let era := z.fdiv 146097
  let dayOfEra := (z - era * 146097).toNat
  let yearOfEra := (dayOfEra - dayOfEra / 1460 + dayOfEra / 36524 - dayOfEra / 146096) / 365
  let dayOfYear := dayOfEra - (365 * yearOfEra + yearOfEra / 4 - yearOfEra / 100)
  let shifted := (5 * dayOfYear + 2) / 153
  let day := dayOfYear - (153 * shifted + 2) / 5 + 1
  let month := (shifted + 2) % 12 + 1
  (yearOfEra + era * 400 + (if month ≤ 2 then 1 else 0), month, day)

def isLeapYear (year : Int) : Bool := year % 4 == 0 && (year % 100 != 0 || year % 400 == 0)

def daysInMonth (year : Int) (month : Nat) : Nat :=
  if month == 2 then (if isLeapYear year then 29 else 28)
  else if [4, 6, 9, 11].contains month then 30 else 31

/-- The years that have points in time. -/
def firstYear : Int := -262143
def lastYear : Int := 262142

/-- Whether the point lies in these years, in universal time. -/
def isWithinYears (t : Timestamp) : Bool :=
  dayOf firstYear 1 1 * 86400 ≤ t.seconds && t.seconds < dayOf (lastYear + 1) 1 1 * 86400

/-! ### Writing -/

/-- Digits with zeros before them up to a width. -/
def padded (width n : Nat) : List Char :=
  let ds := decimalDigits n
  List.replicate (width - ds.length) '0' ++ ds

/-- The fraction of a second: none, or three, six or nine digits. -/
def fractionText (nanos : Nat) : List Char :=
  let n := nanos % nanosPerSecond
  if n == 0 then []
  else if n % 1000000 == 0 then '.' :: padded 3 (n / 1000000)
  else if n % 1000 == 0 then '.' :: padded 6 (n / 1000)
  else '.' :: padded 9 n

/-- A year of four digits, or a longer one with its sign. -/
def yearText (year : Int) : List Char :=
  if 0 ≤ year && year ≤ 9999 then padded 4 year.toNat
  else (if year < 0 then '-' else '+') :: padded 4 year.natAbs

/-- The timestamp in universal time; `zone` is how that is named. -/
def text (zone : String) (t : Timestamp) : String :=
  let days := t.seconds.fdiv 86400
  let inDay := (t.seconds - days * 86400).toNat
  let (year, month, day) := dateOf days
  let second := inDay % 60 + (if t.nanos < nanosPerSecond then 0 else 1)
  String.ofList (yearText year ++ ['-'] ++ padded 2 month ++ ['-'] ++ padded 2 day ++ ['T'] ++
    padded 2 (inDay / 3600) ++ [':'] ++ padded 2 (inDay / 60 % 60) ++ [':'] ++ padded 2 second ++
    fractionText t.nanos ++ zone.toList)

/-! ### Reading -/

/-- At least one and at most `width` digits. -/
def digitsUpTo (width : Nat) (s : List Char) : Option (Nat × List Char) :=
  let ds := (s.take width).takeWhile fun c => '0' ≤ c && c ≤ '9'
  if ds.isEmpty then none else some (digitsValue ds, s.drop ds.length)

/-- A number of one or two digits, after any white space. -/
def readTwo (s : List Char) : Option (Nat × List Char) := digitsUpTo 2 (Text.trimStart s)

/-- A year, after any white space: up to four digits, or any number of them after a sign. -/
def readYear (s : List Char) : Option (Int × List Char) :=
  match Text.trimStart s with
  | '-' :: rest => (digitsUpTo rest.length rest).map fun (n, r) => (-(n : Int), r)
  | '+' :: rest => (digitsUpTo rest.length rest).map fun (n, r) => ((n : Int), r)
  | rest => (digitsUpTo 4 rest).map fun (n, r) => ((n : Int), r)

/-- A mark, after any white space. -/
def mark (c : Char) (s : List Char) : Option (List Char) :=
  match Text.trimStart s with
  | d :: rest => if c == d then some rest else none
  | [] => none

/-- The nanoseconds of a fraction, if one follows. -/
def readFraction (s : List Char) : Option (Nat × List Char) :=
  match s with
  | '.' :: rest =>
    let ds := rest.takeWhile fun c => '0' ≤ c && c ≤ '9'
    if ds.isEmpty then none
    else
      let used := ds.take 9
      some (digitsValue used * Nat.pow 10 (9 - used.length), rest.drop ds.length)
  | _ => some (0, s)

/-- The offset from universal time, in seconds. -/
def readOffset (s : List Char) : Option (Int × List Char) := do
  let s := Text.trimStart s
  if (s.take 3).map Char.toLower == ['u', 't', 'c'] then return (0, s.drop 3)
  match s with
  | c :: rest =>
    if c = 'Z' || c = 'z' then return (0, rest)
    let sign : Int ← if c = '+' then some 1 else if c = '-' || c = '−' then some (-1) else none
    let two (s : List Char) : Option (Nat × List Char) :=
      match s with
      | a :: b :: r => if a.isDigit && b.isDigit then some (digitsValue [a, b], r) else none
      | _ => none
    let (hours, rest) ← two rest
    let (minutes, rest) ← two (rest.dropWhile fun c => c == ':' || Text.isSpace c)
    if 60 ≤ minutes || 24 ≤ hours then none
    return (sign * (hours * 3600 + minutes * 60 : Nat), rest)
  | [] => none

/-- The point in time that a text gives. -/
def parse? (s : String) : Option Timestamp := do
  let (year, s) ← readYear s.toList
  let s ← mark '-' s
  let (month, s) ← readTwo s
  let s ← mark '-' s
  let (day, s) ← readTwo s
  let s ← match s with
    | c :: rest => if c = 'T' || c = 't' || c = ' ' then some rest else none
    | [] => none
  let (hour, s) ← readTwo s
  let s ← mark ':' s
  let (minute, s) ← readTwo s
  let s ← mark ':' s
  let (second, s) ← readTwo s
  let (nanos, s) ← readFraction s
  let (offset, s) ← readOffset s
  let valid := (Text.trimStart s).isEmpty && 1 ≤ month && month ≤ 12 && 1 ≤ day &&
    day ≤ daysInMonth year month && hour < 24 && minute < 60 && second ≤ 60 &&
    firstYear ≤ year && year ≤ lastYear
  if !valid then none
  let leap := second == 60
  let clock : Nat := hour * 3600 + minute * 60 + (if leap then 59 else second)
  let t : Timestamp :=
    ⟨dayOf year month day * 86400 + clock - offset, nanos + (if leap then nanosPerSecond else 0)⟩
  if t.isWithinYears then return t else none

end Timestamp
end Catalogue
