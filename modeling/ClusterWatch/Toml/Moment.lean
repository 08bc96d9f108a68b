import ClusterWatch.Toml.Basic
import ClusterWatch.Text.Decimal

/-!
Dates and times in TOML text.

A moment is a date, a time of day, or a date and a time with `T` or a blank between them, where
the offset from UTC may follow. It is read into its normal text: `T` as the separator, `Z` in
upper case, at most nine digits of a second's fraction and no zeros at its end.
-/

namespace ClusterWatch.Toml

def readTwo : List Char → Option (Nat × List Char)
  | a :: b :: rest =>
    if a.isDigit && b.isDigit then some (Decimal.value [a, b], rest) else none
  | _ => none

def readFour : List Char → Option (Nat × List Char)
  | a :: b :: c :: d :: rest =>
    if [a, b, c, d].all Char.isDigit then some (Decimal.value [a, b, c, d], rest) else none
  | _ => none

/-- The given character and nothing before it. -/
def readChar (c : Char) : List Char → Option (List Char)
  | d :: rest => if c = d then some rest else none
  | [] => none

def daysInMonth (year month : Nat) : Nat :=
  match month with
  | 2 => if year % 4 = 0 ∧ (year % 100 ≠ 0 ∨ year % 400 = 0) then 29 else 28
  | 4 | 6 | 9 | 11 => 30
  | _ => 31

/-- A date that is on the calendar. -/
def readDate (cs : List Char) : Option (String × List Char) := do
  let (year, rest) ← readFour cs
  let (month, rest) ← readTwo (← readChar '-' rest)
  let (day, rest) ← readTwo (← readChar '-' rest)
  if 1 ≤ month ∧ month ≤ 12 ∧ 1 ≤ day ∧ day ≤ daysInMonth year month then
    return (Decimal.padded 4 year ++ "-" ++ Decimal.padded 2 month ++ "-"
      ++ Decimal.padded 2 day, rest)
  else none

/-- The fraction of a second after the point, without the zeros at its end. -/
def fractionText (digits : List Char) : String :=
  match ((digits.take 9).reverse.dropWhile (· == '0')).reverse with
  | [] => ""
  | ds => "." ++ String.ofList ds

/-- A time of day; a minute may have a sixty-first second. -/
def readTime (cs : List Char) : Option (String × List Char) := do
  let (hour, rest) ← readTwo cs
  let (minute, rest) ← readTwo (← readChar ':' rest)
  let (second, rest) ← readTwo (← readChar ':' rest)
  if 23 < hour ∨ 59 < minute ∨ 60 < second then none
  else
    let clock := Decimal.padded 2 hour ++ ":" ++ Decimal.padded 2 minute ++ ":"
      ++ Decimal.padded 2 second
    match rest with
    | '.' :: d :: rest =>
      if d.isDigit then
        return (clock ++ fractionText (d :: rest.takeWhile Char.isDigit),
          rest.dropWhile Char.isDigit)
      else none
    | ['.'] => none
    | rest => return (clock, rest)

def readOffset : List Char → Option (String × List Char)
  | 'Z' :: rest | 'z' :: rest => some ("Z", rest)
  | sign :: rest =>
    if sign = '+' ∨ sign = '-' then do
      let (hours, rest) ← readTwo rest
      let (minutes, rest) ← readTwo (← readChar ':' rest)
      if 23 < hours ∨ 59 < minutes then none
      else
        let sign := if sign = '-' ∧ (hours ≠ 0 ∨ minutes ≠ 0) then "-" else "+"
        return (sign ++ Decimal.padded 2 hours ++ ":" ++ Decimal.padded 2 minutes, rest)
    else none
  | [] => none

/-- What may follow a date: a separator, a time and an offset. -/
def readTimeAfterDate : List Char → Option (String × List Char)
  | separator :: rest =>
    if separator = 'T' ∨ separator = 't' ∨ separator = ' ' then do
      let (time, rest) ← readTime rest
      match readOffset rest with
      | some (offset, rest) => return ("T" ++ time ++ offset, rest)
      | none => return ("T" ++ time, rest)
    else none
  | [] => none

/-- A date, a time, or both. -/
def readMoment (cs : List Char) : Option (Toml × List Char) :=
  match readDate cs with
  | some (date, rest) =>
    match readTimeAfterDate rest with
    | some (time, rest) => some (.datetime (date ++ time), rest)
    | none => some (.datetime date, rest)
  | none => (readTime cs).map fun (time, rest) => (.datetime time, rest)

end ClusterWatch.Toml
