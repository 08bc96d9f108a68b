import ClusterWatch.Json.Reader

/-!
Quoted strings in TOML text.

A basic string stands between double quotes and knows escapes; a literal string stands between
apostrophes and knows none. Both have a form over several lines between three quotes, where a line
break directly after the opening is dropped, every line break counts as a line feed, and one or two
quotes may stand inside and also directly before the closing.
-/

namespace ClusterWatch.Toml

/-- A character that may stand in a string or a comment: anything but the control characters other
than tab. -/
def isPlain (c : Char) : Bool :=
  c == '\t' || (0x20 ≤ c.toNat && c.toNat != 0x7F)

/-- A blank inside a line. -/
def isLineBlank (c : Char) : Bool :=
  c == ' ' || c == '\t'

def skipLineBlanks (cs : List Char) : List Char :=
  cs.dropWhile isLineBlank

/-- The number that hexadecimal digits of either case write. -/
def hexValue? (digits : List Char) : Option Nat :=
  digits.foldlM (fun n c => (Json.hexDigit? c).map (16 * n + ·)) 0

/-- The character with the number that the digits write. -/
def charOfHex? (digits : List Char) : Option Char := do
  let n ← hexValue? digits
  if n.isValidChar then return Char.ofNat n else none

/-- The character that follows a backslash, and what follows it. -/
def readEscape : List Char → Option (Char × List Char)
  | 'b' :: rest => some ('\x08', rest)
  | 't' :: rest => some ('\t', rest)
  | 'n' :: rest => some ('\n', rest)
  | 'f' :: rest => some ('\x0c', rest)
  | 'r' :: rest => some ('\r', rest)
  | '"' :: rest => some ('"', rest)
  | '\\' :: rest => some ('\\', rest)
  | 'u' :: a :: b :: c :: d :: rest => (charOfHex? [a, b, c, d]).map (·, rest)
  | 'U' :: a :: b :: c :: d :: e :: f :: g :: h :: rest =>
    (charOfHex? [a, b, c, d, e, f, g, h]).map (·, rest)
  | _ => none

/-- A basic string after its opening quote. -/
def readBasic : Nat → List Char → Option (List Char × List Char)
  | 0, _ => none
  | _ + 1, '"' :: rest => some ([], rest)
  | fuel + 1, '\\' :: rest => do
    let (c, rest) ← readEscape rest
    let (cs, rest) ← readBasic fuel rest
    return (c :: cs, rest)
  | fuel + 1, c :: rest =>
    if isPlain c then (readBasic fuel rest).map fun (cs, rest) => (c :: cs, rest) else none
  | _ + 1, [] => none

/-- A literal string after its opening quote. -/
def readLiteral : List Char → Option (List Char × List Char)
  | '\'' :: rest => some ([], rest)
  | c :: rest =>
    if isPlain c then (readLiteral rest).map fun (cs, rest) => (c :: cs, rest) else none
  | [] => none

/-- Drops one line break in front. -/
def dropLineBreak : List Char → List Char
  | '\n' :: rest => rest
  | '\r' :: '\n' :: rest => rest
  | cs => cs

/-- Drops blanks and line breaks in front. -/
def skipBlankLines : List Char → List Char
  | ' ' :: rest => skipBlankLines rest
  | '\t' :: rest => skipBlankLines rest
  | '\n' :: rest => skipBlankLines rest
  | '\r' :: '\n' :: rest => skipBlankLines rest
  | cs => cs

/-- The rest of the line after a backslash at its end and of the blank lines below, if there is
nothing else on the line. -/
def continueLine? (cs : List Char) : Option (List Char) :=
  match skipLineBlanks cs with
  | '\n' :: rest => some (skipBlankLines rest)
  | '\r' :: '\n' :: rest => some (skipBlankLines rest)
  | _ => none

/-- The end of a string over several lines: the quotes that belong to it, and what follows its
closing. -/
def readClosing (quote : Char) : List Char → Option (List Char × List Char)
  | a :: b :: c :: rest =>
    if a = quote ∧ b = quote ∧ c = quote then
      match rest with
      | d :: e :: more =>
        if d = quote then
          if e = quote then some ([quote, quote], more) else some ([quote], e :: more)
        else some ([], rest)
      | [d] => if d = quote then some ([quote], []) else some ([], rest)
      | [] => some ([], [])
    else none
  | _ => none

/-- A basic string over several lines, after its opening. -/
def readBasicLines : Nat → List Char → Option (List Char × List Char)
  | 0, _ => none
  | fuel + 1, cs =>
    match readClosing '"' cs with
    | some closing => some closing
    | none =>
      match cs with
      | '\\' :: rest =>
        match continueLine? rest with
        | some rest => readBasicLines fuel rest
        | none => do
          let (c, rest) ← readEscape rest
          let (cs, rest) ← readBasicLines fuel rest
          return (c :: cs, rest)
      | '\n' :: rest => (readBasicLines fuel rest).map fun (cs, rest) => ('\n' :: cs, rest)
      | '\r' :: '\n' :: rest => (readBasicLines fuel rest).map fun (cs, rest) => ('\n' :: cs, rest)
      | c :: rest =>
        if isPlain c then (readBasicLines fuel rest).map fun (cs, rest) => (c :: cs, rest)
        else none
      | [] => none

/-- A literal string over several lines, after its opening. -/
def readLiteralLines : Nat → List Char → Option (List Char × List Char)
  | 0, _ => none
  | fuel + 1, cs =>
    match readClosing '\'' cs with
    | some closing => some closing
    | none =>
      match cs with
      | '\n' :: rest => (readLiteralLines fuel rest).map fun (cs, rest) => ('\n' :: cs, rest)
      | '\r' :: '\n' :: rest =>
        (readLiteralLines fuel rest).map fun (cs, rest) => ('\n' :: cs, rest)
      | c :: rest =>
        if isPlain c then (readLiteralLines fuel rest).map fun (cs, rest) => (c :: cs, rest)
        else none
      | [] => none

/-- A quoted string on one line, and what follows it. -/
def readQuoted : List Char → Option (String × List Char)
  | '"' :: rest =>
    (readBasic (rest.length + 1) rest).map fun (cs, rest) => (String.ofList cs, rest)
  | '\'' :: rest => (readLiteral rest).map fun (cs, rest) => (String.ofList cs, rest)
  | _ => none

/-- A quoted string in any of the four forms, and what follows it. -/
def readString : List Char → Option (String × List Char)
  | '"' :: '"' :: '"' :: rest =>
    let rest := dropLineBreak rest
    (readBasicLines (rest.length + 1) rest).map fun (cs, rest) => (String.ofList cs, rest)
  | '\'' :: '\'' :: '\'' :: rest =>
    let rest := dropLineBreak rest
    (readLiteralLines (rest.length + 1) rest).map fun (cs, rest) => (String.ofList cs, rest)
  | cs => readQuoted cs

end ClusterWatch.Toml
