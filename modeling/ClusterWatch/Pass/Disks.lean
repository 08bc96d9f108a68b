import ClusterWatch.Diagnostic.Console
import ClusterWatch.Disks.Report

/-!
The disk groups of the snapshot through one pass.

Groups are listed by one node. Until it lists a group of a type, the devices that the node was
configured with stand in for it. Last, the disk check's reports add sizes, unless two members of a
group differ: then nothing of the reports is used.
-/

namespace ClusterWatch.Console

open Disks

def reportedDisks (c : Console) (spec : ClusterSpec) : Option (List DiskStatus) :=
  match c.platform.diskCheckLogs spec.ns spec.name with
  | .ok logs => some (logs.flatMap parseReport)
  | .error _ => none

variable {σ : Type} {m : Type → Type} [Channel σ m] [Monad m]

/-- The listed groups with their disks and redundancy, sizes taken from the previous groups. -/
def listGroups (c : Console σ) (pod : String) (spec : ClusterSpec)
    (previous : List DiskGroupStatus) : List String → m (List DiskGroupStatus)
  | [] => pure []
  | name :: names => do
    let disks ← c.disks pod name
    let redundancy ← c.redundancy pod name
    let rest ← c.listGroups pod spec previous names
    return listedGroup spec previous name disks redundancy :: rest

def aggregateGroups (c : Console σ) (pod : String) (spec : ClusterSpec)
    (previous : List DiskGroupStatus) : m (List DiskGroupStatus) := do
  c.listGroups pod spec previous (← c.diskGroups pod)

/-- The groups with a stand-in for a type that none of them has, if the node has devices for it. -/
def fillType (type : DiskGroupType) (devices : m (Except ExecError (List String)))
    (groups : List DiskGroupStatus) : m (List DiskGroupStatus) := do
  if groups.any (·.type = some type) then return groups
  else
    match ← devices with
    | .ok devices => return setDevices groups type devices
    | .error _ => return groups

/-- The groups with stand-ins for the two types that a node is configured with devices for. -/
def fillConfigured (c : Console σ) (pod : String) (groups : List DiskGroupStatus) :
    m (List DiskGroupStatus) := do
  let groups ← fillType .crs (c.crsDeviceList pod) groups
  fillType .dbData (c.dbDeviceList pod) groups

/-- The groups with the sizes that the disk check reports. -/
def recordSizes [Notifies m] (c : Console σ) (spec : ClusterSpec)
    (groups : List DiskGroupStatus) : m (List DiskGroupStatus) := do
  match ← c.see (·.reportedDisks spec) with
  | none => return groups
  | some disks =>
    match discoveredGroups spec disks with
    | .ok discovered => return applyDiscovered groups discovered
    | .error e =>
      Notifies.notify (.sizesNotRecorded e)
      return groups

end ClusterWatch.Console
