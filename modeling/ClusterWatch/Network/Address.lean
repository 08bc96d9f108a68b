import ClusterWatch.Text.Decimal
import ClusterWatch.Text.Segments

/-!
IPv4 addresses.

An address is a number of 32 bits, written as its four bytes in decimal with points between them.
Reading takes exactly that text: four numbers below 256 without leading zeros.
-/

namespace ClusterWatch.Network

structure Address where
  bits : UInt32
deriving DecidableEq, Repr

namespace Address

/-- The address of four bytes, the most significant first. -/
def ofOctets (a b c d : Nat) : Address :=
  ⟨UInt32.ofNat (((a * 256 + b) * 256 + c) * 256 + d)⟩

/-- The four bytes, the most significant first. -/
def octets (x : Address) : List Nat :=
  let n := x.bits.toNat
  [n / 16777216, n / 65536 % 256, n / 256 % 256, n % 256]

def render (x : Address) : String :=
  ".".intercalate (x.octets.map toString)

/-- A byte in decimal without leading zeros. -/
def octet? (cs : List Char) : Option Nat :=
  if cs.head? = some '0' ∧ cs.length ≠ 1 then none
  else (Decimal.readDigits? cs).filter (· < 256)

def ofChars? (cs : List Char) : Option Address :=
  match Text.splitAt '.' cs with
  | [a, b, c, d] => do return ofOctets (← octet? a) (← octet? b) (← octet? c) (← octet? d)
  | _ => none

/-- The address `offset` further on; after the last address comes the first. -/
def advance (x : Address) (offset : UInt32) : Address :=
  ⟨x.bits + offset⟩

example : (ofChars? "10.0.0.255".toList).map (·.advance 1 |>.render) = some "10.0.1.0" := by
  decide
example : ofChars? "10.0.0.01".toList = none ∧ ofChars? "1.2.3".toList = none := by decide

end Address

end ClusterWatch.Network
