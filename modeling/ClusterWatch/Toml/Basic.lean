import ClusterWatch.Dict

/-!
TOML values and what can be taken out of them.

Floats carry no value, since no declaration here has a use for one. A date or time keeps its
normal text. Tables keep the order of their entries.

A record is read by `slots`: from a table by name, from an array by position, and from a date as a
table with the single entry `datetimeName`.
-/

namespace ClusterWatch

inductive Toml where
  | string (s : String)
  | integer (n : Int)
  | float
  | boolean (b : Bool)
  | datetime (text : String)
  | array (items : List Toml)
  | table (entries : List (String × Toml))
deriving Inhabited

namespace Toml

/-- The name under which a date stands when a table is asked for. -/
def datetimeName : String :=
  "$__toml_private_datetime"

/-- The entries of a table; a date counts as a table with one entry. -/
def entries? : Toml → Option (List (String × Toml))
  | table entries => some entries
  | datetime text => some [(datetimeName, string text)]
  | _ => none

def string? : Toml → Option String
  | string s => some s
  | _ => none

def boolean? : Toml → Option Bool
  | boolean b => some b
  | _ => none

/-- An integer from `low` up to, and not including, `high`. -/
def integerIn? (low high : Int) : Toml → Option Int
  | integer n => if low ≤ n ∧ n < high then some n else none
  | _ => none

def list? {α : Type} (decode : Toml → Option α) : Toml → Option (List α)
  | array items => items.mapM decode
  | _ => none

/-- An entry with a string as its value. -/
def stringEntry? (entry : String × Toml) : Option (String × String) :=
  entry.2.string?.map (entry.1, ·)

/-- A table with strings as values. -/
def dict? (toml : Toml) : Option (Dict String) := do
  return Dict.ofList (← (← toml.entries?).mapM stringEntry?)

/-- What happens to a record whose field is missing. An `optional` field may be missing from a
table but not from an array; a `defaulted` one may be missing from both. -/
inductive Presence where
  | required
  | optional
  | defaulted
deriving DecidableEq

structure Field where
  name : String
  presence : Presence := .required

/-- The values of the fields in the items of an array, and the items left over. -/
def slotsByPosition : List Field → List Toml → Option (List (Option Toml) × List Toml)
  | [], items => some ([], items)
  | field :: fields, [] =>
    if field.presence = .defaulted then
      (slotsByPosition fields []).map fun (slots, rest) => (none :: slots, rest)
    else none
  | _ :: fields, item :: items =>
    (slotsByPosition fields items).map fun (slots, rest) => (some item :: slots, rest)

/-- The value of one field among the entries of a table. -/
def slotByName (entries : List (String × Toml)) (field : Field) : Option (Option Toml) :=
  match entries.lookup field.name with
  | some value => some (some value)
  | none => if field.presence = .required then none else some none

/-- The values of a record's fields, in the order of the fields. An array that is `strict` must
not have more items than there are fields. -/
def slots (strict : Bool) (fields : List Field) : Toml → Option (List (Option Toml))
  | array items => do
    let (slots, rest) ← slotsByPosition fields items
    if strict && !rest.isEmpty then none else return slots
  | toml => do
    let entries ← toml.entries?
    fields.mapM (slotByName entries)

/-- The value of a field that may be missing. -/
def absent? {α : Type} (decode : Toml → Option α) : Option Toml → Option (Option α)
  | none => some none
  | some toml => (decode toml).map some

/-- The value of a field that has a default when missing. -/
def default? {α : Type} (value : α) (decode : Toml → Option α) : Option Toml → Option α
  | none => some value
  | some toml => decode toml

end Toml

end ClusterWatch
