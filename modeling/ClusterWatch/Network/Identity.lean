import ClusterWatch.Json.Printer
import ClusterWatch.Network.Ipam

/-!
Addresses of nodes on private networks.

A node's address is the start of the network's range advanced by the node's ordinal, so it needs no
bookkeeping and never moves. The addresses of a node are handed to its pod as an annotation.
-/

namespace ClusterWatch.Network

/-- The key of the annotation that lists a pod's further networks. -/
def annotationKey : String :=
  "k8s.v1.cni.cncf.io/networks"

/-- The address of one node on one private network. -/
structure Identity where
  name : String
  interface : String
  address : Address
  prefixLength : Nat
  ns : String
deriving DecidableEq, Repr

/-- The address with the length of its network. -/
def Identity.cidr (id : Identity) : String :=
  id.address.render ++ "/" ++ toString id.prefixLength

/-- The address `offset` after the one that a text writes. -/
def advanceText (base : String) (offset : UInt32) : Except LookupError Address :=
  match Address.ofChars? (Text.trim base.toList) with
  | some address => .ok (address.advance offset)
  | none => .error (.badAddress base)

/-- What a pod is told about one network. -/
def Identity.toJson (id : Identity) : Json :=
  .record [("name", .text id.name), ("namespace", .text id.ns), ("interface", .text id.interface),
    ("ips", .texts [id.cidr])]

/-- The text of the annotation for a pod with the given addresses. -/
def annotation (ids : List Identity) : String :=
  (Json.array (ids.map Identity.toJson)).compact

end ClusterWatch.Network
