import ClusterWatch.Storage.Sha1
import ClusterWatch.Text.Lowercase

/-!
Names of the platform objects behind a cluster's shared storage.

A name is made from the kind of the object, the digest of the device's path and the name of the
cluster, and from nothing else, so a later pass finds what an earlier one created. Names hold
small letters, digits and single hyphens, and are at most `maxLength` characters long.
-/

namespace ClusterWatch.Storage

/-- The longest name that the platform accepts. -/
def maxLength : Nat :=
  63

/-- The digits of the path's digest that a name keeps. -/
def hashLength : Nat :=
  8

/-- The kinds of storage object that every device has one of. -/
inductive Kind where
  | volumeClaim
  | volume
deriving DecidableEq, Repr

/-- What a name of the kind begins with. -/
def Kind.tag : Kind → String
  | .volumeClaim => "asm-pvc"
  | .volume => "asm-pv"

/-- A small letter or a digit. -/
def isNameChar (c : Char) : Bool :=
  c.isLower || c.isDigit

/-- Keeps name characters and puts one hyphen between two of them that others separate; `gap` says
that others have been passed, and `started` that a name character has been kept. -/
def hyphenate (started gap : Bool) : List Char → List Char
  | [] => []
  | c :: cs =>
    if isNameChar c then
      if started && gap then '-' :: c :: hyphenate true false cs
      else c :: hyphenate true false cs
    else hyphenate started true cs

/-- The text in lower case, with one hyphen for everything between letters and digits. -/
def sanitizeChars (cs : List Char) : List Char :=
  hyphenate false false (Text.lowercaseAll cs)

/-- The part of an object name that stands for a free text. -/
def sanitize (name : String) : String :=
  String.ofList (sanitizeChars name.toList)

/-- The first digits of the digest of a device's path. -/
def shortHash (path : String) : List Char :=
  (Sha1.hex path).take hashLength

/-- Drops hyphens at the back. -/
def dropFinalHyphens (cs : List Char) : List Char :=
  (cs.reverse.dropWhile (· == '-')).reverse

/-- As much of a sanitized name as fits into `room` characters, with no hyphen at the cut. -/
def shorten (room : Nat) (cs : List Char) : List Char :=
  if room < cs.length then dropFinalHyphens (cs.take room) else cs

/-- The characters of an object's name. -/
def nameChars (kind : Kind) (path cluster : String) : List Char :=
  let stem := kind.tag.toList ++ '-' :: shortHash path
  let tail := shorten (maxLength - (stem.length + 1)) (sanitizeChars cluster.toList)
  if tail.isEmpty then stem else stem ++ '-' :: tail

/-- The name of the object of a kind behind the device at `path`, for a cluster. -/
def resourceName (kind : Kind) (path cluster : String) : String :=
  String.ofList (nameChars kind path cluster)

example : sanitize "  My_Cluster--01 " = "my-cluster-01" := by decide
example : sanitize "--" = "" := by decide
example : resourceName .volume "/dev/asm-disk1" "Sales_DB" = "asm-pv-0122353b-sales-db" := by
  decide +kernel

end ClusterWatch.Storage
