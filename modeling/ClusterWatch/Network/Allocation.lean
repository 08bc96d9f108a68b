import ClusterWatch.Journal
import ClusterWatch.Network.Identity

/-!
Taking the addresses of a node from its networks' attachments.

The attachments are those of any store, which finds one by its namespace and name. A network whose
attachment is missing or unusable is skipped with a notice; the others are not affected by it.
-/

namespace ClusterWatch.Network

/-- The attachments of a store, by namespace and name. -/
abbrev Attachments : Type :=
  String → String → Except NotFound String

/-- The address of the node with the given ordinal on a network. -/
def allocateFrom (store : Attachments) (ns : String) (ordinal : UInt32)
    (network : PrivateNetwork) : Except LookupError Identity := do
  let ns := network.ns.getD ns
  let config ← (store ns network.name).mapError .notFound
  let ipam ← Ipam.ofConfig network.name config
  let address ← advanceText ipam.rangeStart ordinal
  let prefixLength ← ipam.prefixLength
  return { name := network.name, interface := network.interface, address, prefixLength, ns }

/-- The addresses of the node with the given ordinal on all networks that have one for it. -/
def allocateAllFrom (store : Attachments) (ns : String) (ordinal : UInt32) :
    List PrivateNetwork → Journal (List Identity)
  | [] => pure []
  | network :: networks => do
    match allocateFrom store ns ordinal network with
    | .ok id => return id :: (← allocateAllFrom store ns ordinal networks)
    | .error e =>
      Journal.notify (.networkSkipped network.name ordinal e)
      allocateAllFrom store ns ordinal networks

/-- The address on a network whose attachment is on a platform. -/
def allocate (platform : Platform) : String → UInt32 → PrivateNetwork →
    Except LookupError Identity :=
  allocateFrom platform.attachment

/-- The addresses on all networks whose attachments are on a platform. -/
def allocateAll (platform : Platform) : String → UInt32 → List PrivateNetwork →
    Journal (List Identity) :=
  allocateAllFrom platform.attachment

end ClusterWatch.Network
