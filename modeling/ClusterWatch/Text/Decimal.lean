/-!
Whole numbers in decimal text.

Reading takes an optional single plus sign and then one or more ASCII digits, leading zeros
included, and nothing else. The main statement is that a number's own digits read back.
-/

namespace ClusterWatch.Decimal

/-- One or more ASCII digits and nothing else. -/
def isNumeral (cs : List Char) : Bool :=
  !cs.isEmpty && cs.all Char.isDigit

/-- The number that a list of digits writes. -/
def value (digits : List Char) : Nat :=
  Nat.ofDigitChars 10 digits 0

def readDigits? (cs : List Char) : Option Nat :=
  if isNumeral cs then some (value cs) else none

/-- Reads digits with an optional plus sign in front. -/
def read? : List Char → Option Nat
  | '+' :: cs => readDigits? cs
  | cs => readDigits? cs

/-- Reads a number that fits into 64 bits. -/
def readUInt64? (cs : List Char) : Option UInt64 :=
  (read? cs).bind fun n => if n < UInt64.size then some (UInt64.ofNat n) else none

/-- The digits of `n`, with zeros in front up to the given width. -/
def padded (width n : Nat) : String :=
  let digits := Nat.toDigits 10 n
  String.ofList (List.replicate (width - digits.length) '0' ++ digits)

theorem isNumeral_toDigits (n : Nat) : isNumeral (Nat.toDigits 10 n) = true := by
  simp only [isNumeral, Bool.and_eq_true, Bool.not_eq_true', List.isEmpty_eq_false_iff,
    List.all_eq_true]
  exact ⟨Nat.toDigits_ne_nil, fun _ h => Nat.isDigit_of_mem_toDigits (by decide) (by decide) h⟩

theorem readDigits?_toDigits (n : Nat) : readDigits? (Nat.toDigits 10 n) = some n := by
  rw [readDigits?, if_pos (isNumeral_toDigits n), value,
    Nat.ofDigitChars_toDigits (by decide) (by decide)]

example : read? "+007".toList = some 7 := by decide
example : read? "++7".toList = none ∧ read? "+".toList = none ∧ read? "7 ".toList = none := by
  decide
example : padded 4 33 = "0033" := by decide

end ClusterWatch.Decimal
