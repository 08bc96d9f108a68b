import ClusterWatch.FirstMatch
import ClusterWatch.Status.Basic
import ClusterWatch.Text.Blank

/-!
Disk groups, put together from what is declared, what a node lists and what a disk check reports.

A disk's size is recorded once and does not change afterwards: a group that is listed again takes
the sizes from the previous groups, and a report fills in only sizes that are still zero.
-/

namespace ClusterWatch.Disks

/-- Two members of a disk group were reported with different sizes. -/
structure SizeMismatch where
  group : String
  disk : String
  sizeGb : UInt64
  expectedGb : UInt64
deriving DecidableEq, Repr

def SizeMismatch.message (e : SizeMismatch) : String :=
  "disk group '" ++ e.group ++ "' has mismatched disk sizes: disk '" ++ e.disk ++ "' = "
    ++ toString e.sizeGb ++ "GB, expected " ++ toString e.expectedGb ++ "GB"

/-- The size recorded for a disk of a group, or zero. -/
def recordedSize (previous : List DiskGroupStatus) (group disk : String) : UInt64 :=
  let disks := (previous.filter (·.name = group)).flatMap (·.disks)
  ((disks.find? (·.name = disk)).map (·.sizeGb)).getD 0

/-- A group as a node lists it, with what is declared about it and the sizes recorded so far. -/
def listedGroup (spec : ClusterSpec) (previous : List DiskGroupStatus) (name : String)
    (disks : List String) (redundancy : String) : DiskGroupStatus :=
  let declared := spec.diskGroup? name
  { name
    type := declared.map (·.type)
    redundancy
    autoUpdate := (declared.map (·.autoUpdate)).getD false
    storageClass := declared.bind (·.storageClass)
    disks := disks.map fun disk => ⟨disk, recordedSize previous name disk, true⟩ }

/-- The reported members of a declared group, in the order of declaration. -/
def reportedMembers (disks : List DiskStatus) (declared : DiskGroup) : List DiskStatus :=
  declared.disks.filterMap fun name => disks.find? (·.name = name)

/-- A declared group with its reported members, which must have one size; `none` when no member is
reported. -/
def discoveredGroup (disks : List DiskStatus) (declared : DiskGroup) :
    Except SizeMismatch (Option DiskGroupStatus) :=
  match reportedMembers disks declared with
  | [] => .ok none
  | first :: rest =>
    match rest.find? (·.sizeGb ≠ first.sizeGb) with
    | some odd => .error ⟨declared.name, odd.name, odd.sizeGb, first.sizeGb⟩
    | none =>
      .ok (some
        { name := declared.name
          type := some declared.type
          redundancy := ""
          autoUpdate := declared.autoUpdate
          storageClass := declared.storageClass
          disks := first :: rest })

/-- The declared groups that have reported members, without the groups of type `OTHERS`. -/
def discoveredGroups (spec : ClusterSpec) (disks : List DiskStatus) :
    Except SizeMismatch (List DiskGroupStatus) := do
  let groups ← (spec.diskGroups.filter (·.type ≠ .others)).mapM (discoveredGroup disks)
  return groups.filterMap id

/-- A group stands in for a discovered one: it was filled in for the type of that. -/
def standsInFor (found group : DiskGroupStatus) : Bool :=
  match found.type with
  | some type => group.type = some type && group.name = type.keyword
  | none => false

/-- A disk with what the first report of it says; a size once recorded is kept. -/
def DiskStatus.merge (reports : List DiskStatus) (disk : DiskStatus) : DiskStatus :=
  match reports.find? (·.name = disk.name) with
  | some report =>
    { disk with
      sizeGb := if disk.sizeGb = 0 then report.sizeGb else disk.sizeGb
      valid := report.valid }
  | none => disk

/-- A group with what the discovered one says about its disks. -/
def DiskGroupStatus.merge (found group : DiskGroupStatus) : DiskGroupStatus :=
  { group with disks := group.disks.map (DiskStatus.merge found.disks) }

/-- Merges a discovered group into the first of its name, or else into the first that stands in
for it, or else adds it. -/
def applyGroup (groups : List DiskGroupStatus) (found : DiskGroupStatus) :
    List DiskGroupStatus :=
  if groups.any (·.name = found.name) then
    modifyFirst (·.name = found.name) (DiskGroupStatus.merge found) groups
  else if groups.any (standsInFor found) then
    modifyFirst (standsInFor found) (DiskGroupStatus.merge found) groups
  else groups ++ [found]

/-- Merges or adds discovered groups, one after the other. -/
def applyDiscovered (groups discovered : List DiskGroupStatus) : List DiskGroupStatus :=
  discovered.foldl applyGroup groups

/-- The disks of a list of device paths, without sizes; empty paths are left out. -/
def devicesAsDisks (devices : List String) : List DiskStatus :=
  ((devices.map Text.trimmed).filter (· ≠ "")).map fun name => ⟨name, 0, true⟩

def placeholder (type : DiskGroupType) (disks : List DiskStatus) : DiskGroupStatus where
  name := type.keyword
  type := some type
  redundancy := ""
  autoUpdate := false
  storageClass := none
  disks := disks

/-- Gives the first group of a type these devices, or adds a group for the type. Without devices
nothing changes. -/
def setDevices (groups : List DiskGroupStatus) (type : DiskGroupType) (devices : List String) :
    List DiskGroupStatus :=
  let disks := devicesAsDisks devices
  if disks.isEmpty then groups
  else if groups.any (·.type = some type) then
    modifyFirst (·.type = some type) (fun group => { group with disks }) groups
  else groups ++ [placeholder type disks]

/-- The valid disks of the groups of a type, with commas between them. -/
def devicesByType (groups : List DiskGroupStatus) (type : DiskGroupType) : String :=
  let disks := (groups.filter (·.type = some type)).flatMap (·.disks)
  ",".intercalate ((disks.filter (·.valid)).map (·.name))

end ClusterWatch.Disks
