import ClusterWatch.Json.Basic
import ClusterWatch.Text.Decimal

/-!
Reading JSON text.

The reader takes strict JSON: nothing but a value and white space around it, no leading zeros, no
control characters inside strings. Half of a surrogate pair is accepted as syntax and makes the
string unreadable. Nesting may be of any depth: the fuel is taken from the length of the text and
always suffices, since every two steps read at least one character.
-/

namespace ClusterWatch.Json

/-- The four characters that may stand around values. -/
def isSpace (c : Char) : Bool :=
  c == ' ' || c == '\n' || c == '\r' || c == '\t'

def skipSpace (cs : List Char) : List Char :=
  cs.dropWhile isSpace

/-- The value of a hexadecimal digit of either case. -/
def hexDigit? (c : Char) : Option Nat :=
  if c.isDigit then some (c.toNat - '0'.toNat)
  else if 'a' ≤ c ∧ c ≤ 'f' then some (c.toNat - 'a'.toNat + 10)
  else if 'A' ≤ c ∧ c ≤ 'F' then some (c.toNat - 'A'.toNat + 10)
  else none

/-- A piece of a string: a character, or a code unit written as four hexadecimal digits. -/
inductive Piece where
  | char (c : Char)
  | unit (n : Nat)

/-- The character that a letter after a backslash stands for. -/
def escaped? : Char → Option Char
  | '"' => some '"'
  | '\\' => some '\\'
  | '/' => some '/'
  | 'b' => some '\x08'
  | 'f' => some '\x0c'
  | 'n' => some '\n'
  | 'r' => some '\r'
  | 't' => some '\t'
  | _ => none

/-- The pieces of a string up to its closing quote, and what follows it. -/
def readPieces : List Char → Option (List Piece × List Char)
  | '"' :: rest => some ([], rest)
  | '\\' :: 'u' :: a :: b :: c :: d :: rest => do
    let n := 0x1000 * (← hexDigit? a) + 0x100 * (← hexDigit? b) + 0x10 * (← hexDigit? c)
      + (← hexDigit? d)
    let (pieces, rest) ← readPieces rest
    return (.unit n :: pieces, rest)
  | '\\' :: e :: rest => do
    let c ← escaped? e
    let (pieces, rest) ← readPieces rest
    return (.char c :: pieces, rest)
  | c :: rest =>
    if c = '\\' ∨ c.toNat < 0x20 then none
    else do
      let (pieces, rest) ← readPieces rest
      return (.char c :: pieces, rest)
  | [] => none

/-- The text of a string's pieces; half of a surrogate pair has none. -/
def resolve : List Piece → Option (List Char)
  | [] => some []
  | .char c :: pieces => (resolve pieces).map (c :: ·)
  | .unit high :: .unit low :: pieces =>
    if 0xD800 ≤ high ∧ high < 0xDC00 then
      if 0xDC00 ≤ low ∧ low < 0xE000 then
        (resolve pieces).map
          (Char.ofNat (0x10000 + 0x400 * (high - 0xD800) + (low - 0xDC00)) :: ·)
      else none
    else if 0xDC00 ≤ high ∧ high < 0xE000 then none
    else (resolve (.unit low :: pieces)).map (Char.ofNat high :: ·)
  | .unit n :: pieces =>
    if 0xD800 ≤ n ∧ n < 0xE000 then none else (resolve pieces).map (Char.ofNat n :: ·)

/-- A string after its opening quote, `none` if it has no text, and what follows it. -/
def readText (cs : List Char) : Option (Option String × List Char) := do
  let (pieces, rest) ← readPieces cs
  return ((resolve pieces).map String.ofList, rest)

/-- Drops the exponent of a number, if there is one; an exponent without digits is none. -/
def dropExponent (cs : List Char) : Option (List Char) :=
  match cs with
  | e :: rest =>
    if e = 'e' ∨ e = 'E' then
      let digits :=
        match rest with
        | '+' :: ds => ds
        | '-' :: ds => ds
        | ds => ds
      match digits with
      | d :: ds => if d.isDigit then some (ds.dropWhile Char.isDigit) else none
      | [] => none
    else some cs
  | [] => some cs

def dropFraction (cs : List Char) : Option (List Char) :=
  match cs with
  | '.' :: d :: rest => if d.isDigit then some (rest.dropWhile Char.isDigit) else none
  | ['.'] => none
  | cs => some cs

def readNumber (cs : List Char) : Option (Json × List Char) := do
  let (negative, body) :=
    match cs with
    | '-' :: body => (true, body)
    | body => (false, body)
  let digits := body.takeWhile Char.isDigit
  let afterDigits := body.dropWhile Char.isDigit
  if digits.isEmpty ∨ (digits.head? = some '0' ∧ digits.length ≠ 1) then none
  else
    let rest ← dropExponent (← dropFraction afterDigits)
    let n := Decimal.value digits
    if rest.length ≠ afterDigits.length ∨ (negative ∧ n = 0) then return (.inexact, rest)
    else return (.integer (if negative then -n else n), rest)

mutual

def readValue : Nat → List Char → Option (Json × List Char)
  | 0, _ => none
  | fuel + 1, cs =>
    match skipSpace cs with
    | 'n' :: 'u' :: 'l' :: 'l' :: rest => some (.null, rest)
    | 't' :: 'r' :: 'u' :: 'e' :: rest => some (.bool true, rest)
    | 'f' :: 'a' :: 'l' :: 's' :: 'e' :: rest => some (.bool false, rest)
    | '"' :: rest => do
      let (s, rest) ← readText rest
      return ((s.map Json.text).getD .unreadable, rest)
    | '[' :: rest =>
      match skipSpace rest with
      | ']' :: rest => some (.array [], rest)
      | rest => (readItems fuel rest).map fun (items, rest) => (.array items, rest)
    | '{' :: rest =>
      match skipSpace rest with
      | '}' :: rest => some (.object [], rest)
      | rest => (readMembers fuel rest).map fun (members, rest) => (.object members, rest)
    | rest => readNumber rest

/-- One or more items and the closing bracket. -/
def readItems : Nat → List Char → Option (List Json × List Char)
  | 0, _ => none
  | fuel + 1, cs => do
    let (item, rest) ← readValue fuel cs
    match skipSpace rest with
    | ',' :: rest =>
      let (items, rest) ← readItems fuel rest
      return (item :: items, rest)
    | ']' :: rest => return ([item], rest)
    | _ => none

/-- One or more members and the closing brace. -/
def readMembers : Nat → List Char → Option (List (Option String × Json) × List Char)
  | 0, _ => none
  | fuel + 1, cs =>
    match skipSpace cs with
    | '"' :: rest => do
      let (name, rest) ← readText rest
      match skipSpace rest with
      | ':' :: rest =>
        let (value, rest) ← readValue fuel rest
        match skipSpace rest with
        | ',' :: rest =>
          let (members, rest) ← readMembers fuel rest
          return ((name, value) :: members, rest)
        | '}' :: rest => return ([(name, value)], rest)
        | _ => none
      | _ => none
    | _ => none

end

def ofChars? (cs : List Char) : Option Json := do
  let (json, rest) ← readValue (2 * cs.length + 2) cs
  if (skipSpace rest).isEmpty then return json else none

def parse? (s : String) : Option Json :=
  ofChars? s.toList

end ClusterWatch.Json
