import ClusterWatch.Toml.Numeral
import ClusterWatch.Toml.Moment
import ClusterWatch.Toml.Quoted
import ClusterWatch.Toml.Tree

/-!
Reading TOML documents.

A document is a sequence of lines, each a header, a key with its value, a comment or nothing.
Arrays may go over several lines, inline tables may not. Arrays and inline tables may stand inside
one another seventy-nine deep, and a dotted key may have seventy-nine parts.
-/

namespace ClusterWatch.Toml

/-- One more than the greatest number of parts of a key, and of brackets around a value. -/
def depthLimit : Nat :=
  80

/-- A character of a key without quotes. -/
def isBare (c : Char) : Bool :=
  c.isAlphanum || c == '_' || c == '-'

/-- One part of a key. -/
def readName : List Char → Option (String × List Char)
  | '"' :: rest => readQuoted ('"' :: rest)
  | '\'' :: rest => readQuoted ('\'' :: rest)
  | cs =>
    match cs.takeWhile isBare with
    | [] => none
    | name => some (String.ofList name, cs.dropWhile isBare)

/-- The parts of a dotted key, with blanks around each. -/
def readParts : Nat → List Char → Option (List String × List Char)
  | 0, _ => none
  | fuel + 1, cs => do
    let (name, rest) ← readName (skipLineBlanks cs)
    match skipLineBlanks rest with
    | '.' :: rest =>
      let (names, rest) ← readParts fuel rest
      return (name :: names, rest)
    | rest => return ([name], rest)

/-- A key as the path before its last part, that part, and what follows the key. -/
def readKey (cs : List Char) : Option (List String × String × List Char) := do
  let (names, rest) ← readParts cs.length cs
  let last ← names.getLast?
  if names.length < depthLimit then return (names.dropLast, last, rest) else none

/-- Drops blanks, line breaks and comments inside an array; a comment ends at its line's end. -/
def skipFiller : Bool → List Char → Option (List Char)
  | _, '\n' :: rest => skipFiller false rest
  | _, '\r' :: '\n' :: rest => skipFiller false rest
  | true, c :: rest => if isPlain c then skipFiller true rest else none
  | true, [] => none
  | false, '#' :: rest => skipFiller true rest
  | false, ' ' :: rest => skipFiller false rest
  | false, '\t' :: rest => skipFiller false rest
  | false, cs => some cs

/-- A string, a truth value, a moment or a number. -/
def readScalar (cs : List Char) : Option (Toml × List Char) :=
  match cs with
  | '"' :: _ => (readString cs).map fun (s, rest) => (.string s, rest)
  | '\'' :: _ => (readString cs).map fun (s, rest) => (.string s, rest)
  | 't' :: 'r' :: 'u' :: 'e' :: rest => some (.boolean true, rest)
  | 'f' :: 'a' :: 'l' :: 's' :: 'e' :: rest => some (.boolean false, rest)
  | cs =>
    match readMoment cs with
    | some moment => some moment
    | none => readNumber cs

mutual

/-- A value inside `depth` brackets. -/
def readValue (depth : Nat) : Nat → List Char → Option (Toml × List Char)
  | 0, _ => none
  | fuel + 1, '[' :: rest =>
    if depth + 1 < depthLimit then
      (readItems (depth + 1) fuel rest).map fun (items, rest) => (.array items, rest)
    else none
  | fuel + 1, '{' :: rest =>
    if depth + 1 < depthLimit then
      match skipLineBlanks rest with
      | '}' :: rest => some (.table [], rest)
      | rest => do
        let (assignments, rest) ← readAssignments (depth + 1) fuel rest
        return (← inlineTable? assignments, rest)
    else none
  | _ + 1, cs => readScalar cs

/-- The items of an array, each followed by a comma or by the closing bracket. -/
def readItems (depth : Nat) : Nat → List Char → Option (List Toml × List Char)
  | 0, _ => none
  | fuel + 1, cs => do
    match ← skipFiller false cs with
    | ']' :: rest => return ([], rest)
    | rest =>
      let (item, rest) ← readValue depth fuel rest
      match ← skipFiller false rest with
      | ',' :: rest =>
        let (items, rest) ← readItems depth fuel rest
        return (item :: items, rest)
      | ']' :: rest => return ([item], rest)
      | _ => none

/-- One or more assignments of an inline table and its closing brace. -/
def readAssignments (depth : Nat) : Nat → List Char → Option (List Assignment × List Char)
  | 0, _ => none
  | fuel + 1, cs => do
    let (path, key, rest) ← readKey cs
    let (value, rest) ← readValue depth fuel (skipLineBlanks (← readChar '=' rest))
    match skipLineBlanks rest with
    | ',' :: rest =>
      let (assignments, rest) ← readAssignments depth fuel rest
      return (⟨path, key, value⟩ :: assignments, rest)
    | '}' :: rest => return ([⟨path, key, value⟩], rest)
    | _ => none

end

/-- What is left after the end of a line: blanks, a comment and a line break, which only the last
line may lack. -/
def readLineEnd (cs : List Char) : Option (List Char) :=
  let rest :=
    match skipLineBlanks cs with
    | '#' :: comment => comment.dropWhile isPlain
    | rest => rest
  match rest with
  | [] => some []
  | '\n' :: rest => some rest
  | '\r' :: '\n' :: rest => some rest
  | _ => none

inductive Line where
  | blank
  | header (header : Header)
  | assignment (assignment : Assignment)

def readLine (cs : List Char) : Option (Line × List Char) :=
  match skipLineBlanks cs with
  | [] => some (.blank, [])
  | '#' :: rest => some (.blank, '#' :: rest)
  | '\n' :: rest => some (.blank, '\n' :: rest)
  | '\r' :: rest => some (.blank, '\r' :: rest)
  | '[' :: '[' :: rest => do
    let (path, key, rest) ← readKey rest
    return (.header (.element path key), ← readChar ']' (← readChar ']' rest))
  | '[' :: rest => do
    let (path, key, rest) ← readKey rest
    return (.header (.table path key), ← readChar ']' rest)
  | rest => do
    let (path, key, rest) ← readKey rest
    let rest := skipLineBlanks (← readChar '=' rest)
    let (value, rest) ← readValue 0 (2 * rest.length + 2) rest
    return (.assignment ⟨path, key, value⟩, rest)

def readLines : Nat → List Char → Option (List Line)
  | _, [] => some []
  | 0, _ => none
  | fuel + 1, cs => do
    let (line, rest) ← readLine cs
    return line :: (← readLines fuel (← readLineEnd rest))

/-- The assignments before the first header, and the sections. -/
def sectionsOfLines : List Line → List Assignment × List Section
  | [] => ([], [])
  | .blank :: lines => sectionsOfLines lines
  | .assignment a :: lines =>
    let (top, sections) := sectionsOfLines lines
    (a :: top, sections)
  | .header h :: lines =>
    let (assignments, sections) := sectionsOfLines lines
    ([], ⟨h, assignments⟩ :: sections)

/-- The value of a document; a byte-order mark in front of it is passed over. -/
def parse? (s : String) : Option Toml := do
  let cs :=
    match s.toList with
    | '\uFEFF' :: cs => cs
    | cs => cs
  let (top, sections) := sectionsOfLines (← readLines (cs.length + 1) cs)
  document? top sections

end ClusterWatch.Toml
