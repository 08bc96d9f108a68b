import ClusterWatch.Text.Blank
import ClusterWatch.Text.Decimal

/-!
Declared memory sizes.

A size is a number of bytes, or a number with a unit: `G`, `GB` and `Gi` stand for 2^30 bytes, `M`,
`MB` and `Mi` for 2^20, in either case. Blanks may stand around the number and around the whole. A
number with a unit may have a plus sign, one without may not. The size has to fit into 64 bits.
-/

namespace ClusterWatch.Memory

def kibibyte : Nat := 1024
def mebibyte : Nat := 1024 * kibibyte
def gibibyte : Nat := 1024 * mebibyte

/-- A size in upper case without its unit, and the bytes of the unit; the characters come in
reverse. -/
def unitOfReversed : List Char → Option (List Char × Nat)
  | 'I' :: 'G' :: rest => some (rest, gibibyte)
  | 'B' :: 'G' :: rest => some (rest, gibibyte)
  | 'G' :: rest => some (rest, gibibyte)
  | 'I' :: 'M' :: rest => some (rest, mebibyte)
  | 'B' :: 'M' :: rest => some (rest, mebibyte)
  | 'M' :: rest => some (rest, mebibyte)
  | _ => none

/-- The bytes that a text declares, before their bound is looked at. -/
def bytes? (cs : List Char) : Option Nat :=
  let s := (Text.trim cs).map Char.toUpper
  match unitOfReversed s.reverse with
  | some (number, unit) => (Decimal.read? (Text.trim number.reverse)).map (· * unit)
  | none => Decimal.readDigits? s

def size? (value : String) : Option UInt64 :=
  (bytes? value.toList).bind fun n =>
    if n < UInt64.size then some (UInt64.ofNat n) else none

example : size? " 16 gi " = some 17179869184 := by decide
example : size? "+1M" = some 1048576 ∧ size? "+1" = none := by decide
example : size? "17179869184G" = none ∧ size? "" = none ∧ size? "1T" = none := by decide

end ClusterWatch.Memory
