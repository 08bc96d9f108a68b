import ClusterWatch.Text.Blank
import ClusterWatch.Text.Decimal

/-!
Points in time, in UTC.

A time is kept as its calendar fields. It is written as `2025-01-02T03:04:05Z`, with three, six or
nine digits of a second's fraction if fewer lose something. Reading is more lenient: blanks may
stand before each number and each separator, single digits are enough, and any offset from UTC is
taken off. A minute may have a sixty-first second.
-/

namespace ClusterWatch

structure Timestamp where
  year : Int
  month : Nat
  day : Nat
  hour : Nat
  minute : Nat
  second : Nat
  nanosecond : Nat
deriving DecidableEq, Repr

namespace Timestamp

/-- The least and the greatest year that a time may be in. -/
def minYear : Int := -262143
def maxYear : Int := 262142

def isLeapYear (year : Int) : Bool :=
  year % 4 == 0 && (year % 100 != 0 || year % 400 == 0)

def daysInMonth (year : Int) (month : Nat) : Nat :=
  match month with
  | 2 => if isLeapYear year then 29 else 28
  | 4 | 6 | 9 | 11 => 30
  | _ => 31

/-- The fields are a point in time on the calendar. -/
def isValid (t : Timestamp) : Bool :=
  minYear ≤ t.year && t.year ≤ maxYear && 1 ≤ t.month && t.month ≤ 12 && 1 ≤ t.day &&
    t.day ≤ daysInMonth t.year t.month && t.hour ≤ 23 && t.minute ≤ 59 && t.second ≤ 60 &&
    t.nanosecond < 1000000000

/-! Writing. -/

/-- A year: four digits, with a sign and perhaps more digits outside 0 to 9999. -/
def yearText (year : Int) : String :=
  if 0 ≤ year ∧ year ≤ 9999 then Decimal.padded 4 year.toNat
  else (if year < 0 then "-" else "+") ++ Decimal.padded 4 year.natAbs

/-- The fraction of a second after its point, in the fewest groups of three digits. -/
def fractionText (nanosecond : Nat) : String :=
  if nanosecond = 0 then ""
  else if nanosecond % 1000000 = 0 then "." ++ Decimal.padded 3 (nanosecond / 1000000)
  else if nanosecond % 1000 = 0 then "." ++ Decimal.padded 6 (nanosecond / 1000)
  else "." ++ Decimal.padded 9 nanosecond

def render (t : Timestamp) : String :=
  yearText t.year ++ "-" ++ Decimal.padded 2 t.month ++ "-" ++ Decimal.padded 2 t.day
    ++ "T" ++ Decimal.padded 2 t.hour ++ ":" ++ Decimal.padded 2 t.minute
    ++ ":" ++ Decimal.padded 2 t.second ++ fractionText t.nanosecond ++ "Z"

/-! Reading. -/

/-- Up to `most` digits in front, at least one. -/
def readDigits (most : Nat) (cs : List Char) : Option (Nat × List Char) :=
  match (cs.take most).takeWhile Char.isDigit with
  | [] => none
  | digits => some (Decimal.value digits, cs.drop digits.length)

/-- One or two digits, perhaps after blanks. -/
def readField (cs : List Char) : Option (Nat × List Char) :=
  readDigits 2 (Text.trimStart cs)

/-- A year, perhaps after blanks: up to four digits, or a sign and any number of digits. -/
def readYear (cs : List Char) : Option (Int × List Char) :=
  match Text.trimStart cs with
  | '-' :: rest => (readDigits rest.length rest).map fun (n, rest) => (-n, rest)
  | '+' :: rest => (readDigits rest.length rest).map fun (n, rest) => (n, rest)
  | rest => (readDigits 4 rest).map fun (n, rest) => (n, rest)

/-- The given separator, perhaps after blanks. -/
def readSeparator (c : Char) (cs : List Char) : Option (List Char) :=
  match Text.trimStart cs with
  | d :: rest => if c = d then some rest else none
  | [] => none

/-- The nanoseconds after a point; digits after the ninth are passed over. -/
def readFraction (cs : List Char) : Option (Nat × List Char) :=
  match cs with
  | '.' :: rest =>
    match (rest.takeWhile Char.isDigit).take 9 with
    | [] => none
    | digits =>
      some (Decimal.value digits * Nat.pow 10 (9 - digits.length), rest.dropWhile Char.isDigit)
  | rest => some (0, rest)

/-- Two digits without blanks before them. -/
def readPair : List Char → Option (Nat × List Char)
  | a :: b :: rest =>
    if a.isDigit && b.isDigit then some (Decimal.value [a, b], rest) else none
  | _ => none

/-- The minutes of an offset after its sign. -/
def readOffsetMinutes (cs : List Char) : Option (Int × List Char) := do
  let (hours, rest) ← readPair cs
  let (minutes, rest) ← readPair (rest.dropWhile fun c => c == ':' || Text.isBlank c)
  if hours < 24 ∧ minutes < 60 then return (hours * 60 + minutes, rest) else none

/-- An offset from UTC in minutes: `Z`, `UTC`, or a sign with hours and minutes. -/
def readOffset (cs : List Char) : Option (Int × List Char) :=
  match cs with
  | u :: t :: c :: rest =>
    if [u, t, c].map Char.toUpper = ['U', 'T', 'C'] then some (0, rest) else readSigned cs
  | _ => readSigned cs
where
  readSigned : List Char → Option (Int × List Char)
    | 'Z' :: rest => some (0, rest)
    | 'z' :: rest => some (0, rest)
    | '+' :: rest => readOffsetMinutes rest
    | '-' :: rest => (readOffsetMinutes rest).map fun (n, rest) => (-n, rest)
    | '\u2212' :: rest => (readOffsetMinutes rest).map fun (n, rest) => (-n, rest)
    | _ => none

def nextDay (t : Timestamp) : Timestamp :=
  if t.day < daysInMonth t.year t.month then { t with day := t.day + 1 }
  else if t.month < 12 then { t with month := t.month + 1, day := 1 }
  else { t with year := t.year + 1, month := 1, day := 1 }

def previousDay (t : Timestamp) : Timestamp :=
  if 1 < t.day then { t with day := t.day - 1 }
  else if 1 < t.month then
    { t with month := t.month - 1, day := daysInMonth t.year (t.month - 1) }
  else { t with year := t.year - 1, month := 12, day := 31 }

/-- The time in UTC of a clock that is `offset` minutes ahead of UTC, by less than a day. -/
def takeOffset (t : Timestamp) (offset : Int) : Timestamp :=
  let minutes := (t.hour : Int) * 60 + t.minute - offset
  let clock := (minutes % 1440).toNat
  let t := { t with hour := clock / 60, minute := clock % 60 }
  if minutes < 0 then t.previousDay else if 1440 ≤ minutes then t.nextDay else t

/-- The letter between a date and a time. -/
def readDateEnd : List Char → Option (List Char)
  | 'T' :: rest => some rest
  | 't' :: rest => some rest
  | ' ' :: rest => some rest
  | _ => none

def ofChars? (cs : List Char) : Option Timestamp := do
  let (year, rest) ← readYear cs
  let (month, rest) ← readField (← readSeparator '-' rest)
  let (day, rest) ← readField (← readSeparator '-' rest)
  let (hour, rest) ← readField (← readDateEnd rest)
  let (minute, rest) ← readField (← readSeparator ':' rest)
  let (second, rest) ← readField (← readSeparator ':' rest)
  let (nanosecond, rest) ← readFraction rest
  let (offset, rest) ← readOffset (Text.trimStart rest)
  let t : Timestamp := { year, month, day, hour, minute, second, nanosecond }
  let utc := t.takeOffset offset
  if (Text.trimStart rest).isEmpty && t.isValid && utc.isValid then return utc else none

def parse? (s : String) : Option Timestamp :=
  ofChars? s.toList

/-- The time so many seconds after the start of 1970. Years are counted from the first of March, so
that a leap day is the last of its year, in eras of four hundred years. -/
def ofUnix (seconds nanosecond : Nat) : Timestamp :=
  let day := seconds / 86400 + 719468
  let dayOfEra := day % 146097
  let yearOfEra :=
    (dayOfEra - dayOfEra / 1460 + dayOfEra / 36524 - dayOfEra / 146096) / 365
  let dayOfYear := dayOfEra - (365 * yearOfEra + yearOfEra / 4 - yearOfEra / 100)
  let monthFromMarch := (5 * dayOfYear + 2) / 153
  let month := if monthFromMarch < 10 then monthFromMarch + 3 else monthFromMarch - 9
  { year := (yearOfEra + 400 * (day / 146097) + if month ≤ 2 then 1 else 0 : Nat)
    month
    day := dayOfYear - (153 * monthFromMarch + 2) / 5 + 1
    hour := seconds / 3600 % 24
    minute := seconds / 60 % 60
    second := seconds % 60
    nanosecond }

example : (ofUnix 1735785845 500000000).render = "2025-01-02T02:44:05.500Z" := by decide +kernel
example : (parse? "2025-01-01T00:30:05.5+02:00").map render = some "2024-12-31T22:30:05.500Z" := by
  decide +kernel
example : parse? "2023-02-29T00:00:00Z" = none := by decide +kernel

end Timestamp

end ClusterWatch
