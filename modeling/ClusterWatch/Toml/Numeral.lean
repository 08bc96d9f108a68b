import ClusterWatch.Toml.Basic
import ClusterWatch.Text.Decimal

/-!
Numbers in TOML text.

Integers are decimal with an optional sign, or hexadecimal, octal or binary without one, and must
fit into 64 bits with sign. Underscores may stand between two digits. A float needs a fraction, an
exponent or both, or is one of the words `inf` and `nan`; a positive one must not round to
infinity.
-/

namespace ClusterWatch.Toml

/-- Digits after the first, an underscore only directly before another digit. -/
def readMoreDigits (isDigit : Char → Bool) : List Char → Option (List Char × List Char)
  | '_' :: c :: rest =>
    if isDigit c then (readMoreDigits isDigit rest).map fun (ds, rest) => (c :: ds, rest)
    else none
  | ['_'] => none
  | c :: rest =>
    if isDigit c then (readMoreDigits isDigit rest).map fun (ds, rest) => (c :: ds, rest)
    else some ([], c :: rest)
  | [] => some ([], [])

/-- One or more digits, with their underscores left out. -/
def readDigits (isDigit : Char → Bool) : List Char → Option (List Char × List Char)
  | c :: rest =>
    if isDigit c then (readMoreDigits isDigit rest).map fun (ds, rest) => (c :: ds, rest)
    else none
  | [] => none

/-- The digits of a whole number; a zero in front stands alone. -/
def readWhole : List Char → Option (List Char × List Char)
  | '0' :: rest => some (['0'], rest)
  | cs => readDigits Char.isDigit cs

/-- A sign, `true` for minus, and what follows it. -/
def readSign : List Char → Bool × List Char
  | '-' :: rest => (true, rest)
  | '+' :: rest => (false, rest)
  | cs => (false, cs)

/-- The value of a digit in a base up to sixteen. -/
def digitValue (c : Char) : Nat :=
  if c.isDigit then c.toNat - '0'.toNat
  else if 'a' ≤ c ∧ c ≤ 'f' then c.toNat - 'a'.toNat + 10
  else if 'A' ≤ c ∧ c ≤ 'F' then c.toNat - 'A'.toNat + 10
  else 16

/-- The number that digits write in the given base. -/
def valueIn (base : Nat) (digits : List Char) : Nat :=
  digits.foldl (fun n c => base * n + digitValue c) 0

/-- The least number that rounds to infinity in double precision: half a unit in the last place
above the largest finite one. -/
def infinityBound : Nat :=
  Nat.pow 2 1024 - Nat.pow 2 970

/-- The number `digits` times the given power of ten rounds to infinity. -/
def roundsToInfinity (digits : Nat) (power : Int) : Bool :=
  if digits = 0 then false
  else
    let magnitude := power + (Nat.toDigits 10 digits).length
    if magnitude ≤ 308 then false
    else if 310 ≤ magnitude then true
    else
      match power with
      | .ofNat n => infinityBound ≤ digits * Nat.pow 10 n
      | .negSucc n => infinityBound * Nat.pow 10 (n + 1) ≤ digits

/-- The exponent of a float after its `e`. -/
def readExponent (cs : List Char) : Option (Int × List Char) := do
  let (negative, body) := readSign cs
  let (digits, rest) ← readDigits Char.isDigit body
  let n := Decimal.value digits
  return (if negative then -n else n, rest)

/-- What follows the whole part of a number: the digits of its fraction and its exponent, if there
is either. -/
def readFraction : List Char → Option (Option (List Char × Int) × List Char)
  | '.' :: cs => do
    let (fraction, rest) ← readDigits Char.isDigit cs
    match rest with
    | 'e' :: rest | 'E' :: rest =>
      let (exponent, rest) ← readExponent rest
      return (some (fraction, exponent), rest)
    | rest => return (some (fraction, 0), rest)
  | 'e' :: cs | 'E' :: cs => do
    let (exponent, rest) ← readExponent cs
    return (some ([], exponent), rest)
  | cs => some (none, cs)

/-- A signed integer of 64 bits. -/
def ofInteger? (n : Int) : Option Toml :=
  if -Int.pow 2 63 ≤ n ∧ n < Int.pow 2 63 then some (.integer n) else none

/-- An integer in another base than ten. -/
def readBased (base : Nat) (cs : List Char) : Option (Toml × List Char) := do
  let (digits, rest) ← readDigits (digitValue · < base) cs
  return (← ofInteger? (valueIn base digits), rest)

/-- A decimal integer or a float. -/
def readDecimal (cs : List Char) : Option (Toml × List Char) := do
  let (negative, body) := readSign cs
  match body with
  | 'i' :: 'n' :: 'f' :: rest => return (.float, rest)
  | 'n' :: 'a' :: 'n' :: rest => return (.float, rest)
  | body =>
    let (whole, rest) ← readWhole body
    match ← readFraction rest with
    | (none, rest) =>
      let n := Decimal.value whole
      return (← ofInteger? (if negative then -n else n), rest)
    | (some (fraction, exponent), rest) =>
      if !negative && roundsToInfinity (Decimal.value (whole ++ fraction))
          (exponent - fraction.length) then none
      else return (.float, rest)

def readNumber : List Char → Option (Toml × List Char)
  | '0' :: 'x' :: cs => readBased 16 cs
  | '0' :: 'o' :: cs => readBased 8 cs
  | '0' :: 'b' :: cs => readBased 2 cs
  | cs => readDecimal cs

end ClusterWatch.Toml
