import ClusterWatch.Json.Basic

/-!
Writing JSON text, in two layouts.

`compact` writes no white space at all. `pretty` writes every item and member on a line of its own,
indented by two spaces a level; empty arrays and objects stay on one line. Quotes, backslashes and
the characters below U+0020 are escaped, everything else is written as it is. A value that carries
no text of its own, `inexact` or `unreadable`, is written as one that reads back to it.
-/

namespace ClusterWatch.Json

/-- A hexadecimal digit below sixteen, in lower case. -/
def hexDigit (n : Nat) : Char :=
  Nat.digitChar n

/-- The characters that write `c` inside a string. -/
def escape (c : Char) : List Char :=
  match c with
  | '"' => ['\\', '"']
  | '\\' => ['\\', '\\']
  | '\x08' => ['\\', 'b']
  | '\x0c' => ['\\', 'f']
  | '\n' => ['\\', 'n']
  | '\r' => ['\\', 'r']
  | '\t' => ['\\', 't']
  | c =>
    if c.toNat < 0x20 then
      ['\\', 'u', '0', '0', hexDigit (c.toNat / 0x10), hexDigit (c.toNat % 0x10)]
    else [c]

def quoted (s : String) : String :=
  String.ofList ('"' :: s.toList.flatMap escape ++ ['"'])

/-- The written form of a string that has no text. -/
def quotedUnreadable : String :=
  "\"\\ud800\""

/-- The name of a member with its quotes. -/
def quotedName : Option String → String
  | some name => quoted name
  | none => quotedUnreadable

mutual

def compact : Json → String
  | .null => "null"
  | .bool b => if b then "true" else "false"
  | .integer n => toString n
  | .inexact => "0e0"
  | .text s => quoted s
  | .unreadable => quotedUnreadable
  | .array [] => "[]"
  | .array (item :: items) => "[" ++ compact item ++ compactItems items ++ "]"
  | .object [] => "\x7b\x7d"
  | .object ((name, value) :: members) =>
    "\x7b" ++ quotedName name ++ ":" ++ compact value ++ compactMembers members ++ "\x7d"

/-- The items after the first, a comma before each. -/
def compactItems : List Json → String
  | [] => ""
  | item :: items => "," ++ compact item ++ compactItems items

/-- The members after the first, a comma before each. -/
def compactMembers : List (Option String × Json) → String
  | [] => ""
  | (name, value) :: members =>
    "," ++ quotedName name ++ ":" ++ compact value ++ compactMembers members

end

/-- A line break and the indentation of a level. -/
def newline (level : Nat) : String :=
  String.ofList ('\n' :: List.replicate (2 * level) ' ')

mutual

/-- The value as it is written inside the given level. -/
def prettyAt (level : Nat) : Json → String
  | .null => "null"
  | .bool b => if b then "true" else "false"
  | .integer n => toString n
  | .inexact => "0e0"
  | .text s => quoted s
  | .unreadable => quotedUnreadable
  | .array [] => "[]"
  | .array (item :: items) =>
    "[" ++ newline (level + 1) ++ prettyAt (level + 1) item ++ prettyItems (level + 1) items
      ++ newline level ++ "]"
  | .object [] => "\x7b\x7d"
  | .object ((name, value) :: members) =>
    "\x7b" ++ newline (level + 1) ++ quotedName name ++ ": " ++ prettyAt (level + 1) value
      ++ prettyMembers (level + 1) members ++ newline level ++ "\x7d"

/-- The items after the first, each on a new line. -/
def prettyItems (level : Nat) : List Json → String
  | [] => ""
  | item :: items => "," ++ newline level ++ prettyAt level item ++ prettyItems level items

/-- The members after the first, each on a new line. -/
def prettyMembers (level : Nat) : List (Option String × Json) → String
  | [] => ""
  | (name, value) :: members =>
    "," ++ newline level ++ quotedName name ++ ": " ++ prettyAt level value
      ++ prettyMembers level members

end

/-- The value over several lines. -/
def pretty (json : Json) : String :=
  prettyAt 0 json

example : compact (record [("a", texts ["x\n", "\x01"]), ("b", count 5)])
    = "\x7b\"a\":[\"x\\n\",\"\\u0001\"],\"b\":5\x7d" := by decide +kernel

end ClusterWatch.Json
