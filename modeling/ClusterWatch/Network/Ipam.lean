import ClusterWatch.Json.Reader
import ClusterWatch.Network.Address
import ClusterWatch.Platform.Basic

/-!
The address block of a network attachment.

An attachment's configuration is JSON with an `ipam` record, which names a subnet and the start of
the range that addresses are taken from.
-/

namespace ClusterWatch.Network

/-- Why a node has no address on a network. -/
inductive LookupError where
  | notFound (missing : NotFound)
  | badConfig (name reason : String)
  | badAddress (text : String)
  | badSubnet (text : String)
deriving DecidableEq, Repr

def LookupError.message : LookupError → String
  | notFound missing => missing.message
  | badConfig name reason =>
    "network attachment '" ++ name ++ "' has no usable IPAM config: " ++ reason
  | badAddress text => "invalid IPv4 address '" ++ text ++ "'"
  | badSubnet text => "invalid subnet '" ++ text ++ "'"

/-- The address block of an attachment. -/
structure Ipam where
  subnet : String
  rangeStart : String
  rangeEnd : Option String := none
  gateway : Option String := none
deriving DecidableEq, Repr

namespace Ipam

def fields : List Json.Field :=
  [⟨"subnet", .required⟩, ⟨"rangeStart", .required⟩, ⟨"rangeEnd", .defaulted⟩,
   ⟨"gateway", .defaulted⟩]

/-- The block that a JSON value describes. -/
def ofJson? (json : Json) : Option Ipam := do
  match ← json.slots fields with
  | [some subnet, some rangeStart, rangeEnd, gateway] =>
    return { subnet := ← subnet.text?, rangeStart := ← rangeStart.text?
             rangeEnd := ← Json.absent? Json.text? rangeEnd
             gateway := ← Json.absent? Json.text? gateway }
  | _ => none

/-- The block of an attachment's whole configuration. -/
def ofAttachment? (json : Json) : Option Ipam := do
  match ← json.slots [⟨"ipam", .required⟩] with
  | [some ipam] => ofJson? ipam
  | _ => none

/-- The block that the text of a configuration holds. -/
def ofConfig (name config : String) : Except LookupError Ipam :=
  match Json.parse? config with
  | none => .error (.badConfig name "not JSON")
  | some json =>
    match ofAttachment? json with
    | none => .error (.badConfig name "no ipam record")
    | some ipam => .ok ipam

def byte? (cs : List Char) : Option Nat :=
  (Decimal.read? cs).filter (· < 256)

/-- The prefix length of a subnet in its usual notation: up to four bytes, of which missing ones
are zero, a slash and the length. -/
def lengthOfSubnet? (cs : List Char) : Option Nat := do
  let (network, length) ← Text.cutLast '/' cs
  let octets := Text.splitAt '.' network
  let n ← byte? length
  if n ≤ 32 ∧ octets.length ≤ 4 ∧ octets.all (byte? · |>.isSome) then return n else none

def prefixLength (ipam : Ipam) : Except LookupError Nat :=
  match lengthOfSubnet? ipam.subnet.toList with
  | some n => .ok n
  | none => .error (.badSubnet ipam.subnet)

end Ipam

end ClusterWatch.Network
