import ClusterWatch.Dict

/-!
JSON values and what can be taken out of them.

A value keeps what the formats built on it can tell apart. Whole numbers keep their value; a number
written with a fraction, an exponent or as minus zero is `inexact`, since no format here has a use
for one. A string whose escapes name half of a surrogate pair has no text and is `unreadable`; a
member of an object may have such a name, `none`.

A record is read by `slots`, from an object by name or from an array by position.
-/

namespace ClusterWatch

inductive Json where
  | null
  | bool (b : Bool)
  | integer (n : Int)
  | inexact
  | text (s : String)
  | unreadable
  | array (items : List Json)
  | object (members : List (Option String × Json))
deriving Inhabited

namespace Json

def record (members : List (String × Json)) : Json :=
  object (members.map fun (name, value) => (some name, value))

def texts (items : List String) : Json :=
  array (items.map text)

/-- The object of a dictionary of texts. -/
def ofDict (d : Dict String) : Json :=
  record (d.entries.map fun (name, value) => (name, text value))

/-- A number that counts something. -/
def count (n : Nat) : Json :=
  integer n

/-- A value that may be missing; a missing one is `null`. -/
def nullable {α : Type} (encode : α → Json) : Option α → Json
  | some a => encode a
  | none => null

def text? : Json → Option String
  | text s => some s
  | _ => none

def bool? : Json → Option Bool
  | bool b => some b
  | _ => none

/-- A whole number below 2^64. -/
def uint64? : Json → Option UInt64
  | integer n => if 0 ≤ n ∧ n < UInt64.size then some (UInt64.ofNat n.toNat) else none
  | _ => none

/-- A value or `null`. -/
def optional? {α : Type} (decode : Json → Option α) : Json → Option (Option α)
  | null => some none
  | json => (decode json).map some

def list? {α : Type} (decode : Json → Option α) : Json → Option (List α)
  | array items => items.mapM decode
  | _ => none

/-- A member with a readable name and a text as its value. -/
def textMember? : Option String × Json → Option (String × String)
  | (some name, text s) => some (name, s)
  | _ => none

/-- An object with texts as values; of two members with one name the later counts. -/
def dict? : Json → Option (Dict String)
  | object members => (members.mapM textMember?).map Dict.ofList
  | _ => none

/-- When the value of a field may be left out: never, from an object only, or also at the end of an
array. -/
inductive Presence where
  | required
  | nullable
  | defaulted
deriving DecidableEq

structure Field where
  name : String
  presence : Presence := .required

/-- The values of the fields in the items of an array, field by field. -/
def slotsByPosition : List Field → List Json → Option (List (Option Json))
  | [], [] => some []
  | [], _ :: _ => none
  | field :: fields, [] =>
    if field.presence = .defaulted then (slotsByPosition fields []).map (none :: ·) else none
  | _ :: fields, item :: items => (slotsByPosition fields items).map (some item :: ·)

/-- The value of one field among the members of an object; no field may occur twice. -/
def slotByName (members : List (Option String × Json)) (field : Field) : Option (Option Json) :=
  match members.filter (·.1 == some field.name) with
  | [] => if field.presence = .required then none else some none
  | [(_, value)] => some (some value)
  | _ => none

/-- The values of a record's fields, in the order of the fields. Members under other names are
passed over, but every name has to be readable. -/
def slots (fields : List Field) : Json → Option (List (Option Json))
  | array items => slotsByPosition fields items
  | object members =>
    if members.all (·.1.isSome) then fields.mapM (slotByName members) else none
  | _ => none

/-- The value of a field that may be missing or `null`. -/
def absent? {α : Type} (decode : Json → Option α) : Option Json → Option (Option α)
  | none => some none
  | some json => json.optional? decode

/-- The value of a field that has a default when missing. -/
def default? {α : Type} (value : α) (decode : Json → Option α) : Option Json → Option α
  | none => some value
  | some json => decode json

end Json

end ClusterWatch
