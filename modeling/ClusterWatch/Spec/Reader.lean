import ClusterWatch.Spec.Basic
import ClusterWatch.Toml.Reader

/-!
Reading a cluster's declaration from TOML.

A declaration is refused if it is not TOML, if it does not fit the fields of `ClusterSpec`, or if
two of its nodes have one name. Keys that name no field are passed over.
-/

namespace ClusterWatch

/-- Why a declaration is refused. -/
inductive ConfigError where
  | unreadable
  | duplicateNode (name : String)
deriving DecidableEq, Repr

def ConfigError.message : ConfigError → String
  | unreadable => "invalid config: not a cluster declaration"
  | duplicateNode name => "node name '" ++ name ++ "' is declared more than once"

namespace PrivateNetwork

def fields : List Toml.Field :=
  [⟨"name", .required⟩, ⟨"interface", .required⟩, ⟨"namespace", .optional⟩]

def ofToml? (toml : Toml) : Option PrivateNetwork := do
  match ← toml.slots true fields with
  | [some name, some interface, ns] =>
    return { name := ← name.string?, interface := ← interface.string?,
             ns := ← Toml.absent? Toml.string? ns }
  | _ => none

end PrivateNetwork

namespace Instance

def fields : List Toml.Field :=
  [⟨"name", .required⟩, ⟨"worker_nodes", .defaulted⟩, ⟨"vip_service", .optional⟩,
   ⟨"pvc", .defaulted⟩, ⟨"private_networks", .defaulted⟩]

def ofToml? (toml : Toml) : Option Instance := do
  match ← toml.slots true fields with
  | [some name, workerNodes, vipService, pvc, networks] =>
    return { name := ← name.string?
             workerNodes := ← Toml.default? [] (Toml.list? Toml.string?) workerNodes
             vipService := ← Toml.absent? Toml.string? vipService
             pvc := ← Toml.default? ∅ Toml.dict? pvc
             privateNetworks :=
               ← Toml.default? [] (Toml.list? PrivateNetwork.ofToml?) networks }
  | _ => none

end Instance

namespace Layout

def fields : List Toml.Field :=
  [⟨"node_count", .required⟩, ⟨"node_name", .required⟩, ⟨"worker_nodes", .defaulted⟩,
   ⟨"private_networks", .defaulted⟩]

def ofToml? (toml : Toml) : Option Layout := do
  match ← toml.slots true fields with
  | [some count, some name, workerNodes, networks] =>
    return { nodeCount := UInt32.ofNat (← count.integerIn? 0 (Int.pow 2 32)).toNat
             nodeName := ← name.string?
             workerNodes := ← Toml.default? [] (Toml.list? Toml.string?) workerNodes
             privateNetworks :=
               ← Toml.default? [] (Toml.list? PrivateNetwork.ofToml?) networks }
  | _ => none

end Layout

namespace Topology

/-- The name of the entry that tells the two topologies apart. -/
def modeName : String :=
  "mode"

/-- The mode of a topology and the rest of it; in an array the mode comes first. -/
def tagged? : Toml → Option (String × Toml)
  | .array [] => none
  | .array (mode :: items) => mode.string?.map (·, .array items)
  | .table entries => do
    let mode ← (← entries.lookup modeName).string?
    return (mode, .table (entries.filter (·.1 ≠ modeName)))
  | _ => none

def ofToml? (toml : Toml) : Option Topology := do
  match ← tagged? toml with
  | ("instances", body) =>
    match ← body.slots true [⟨"instances", .required⟩] with
    | [some is] => return .instances (← is.list? Instance.ofToml?)
    | _ => none
  | ("cluster", body) => return .cluster (← Layout.ofToml? body)
  | _ => none

end Topology

/-- A type as a string, or as the name of the only entry of a table, whose value is an empty table
or array. -/
def DiskGroupType.ofToml? : Toml → Option DiskGroupType
  | .string s => ofKeyword? s
  | .table [(name, .table [])] => ofKeyword? name
  | .table [(name, .array [])] => ofKeyword? name
  | _ => none

namespace DiskGroup

def fields : List Toml.Field :=
  [⟨"name", .required⟩, ⟨"type", .defaulted⟩, ⟨"disks", .defaulted⟩,
   ⟨"auto_update", .defaulted⟩, ⟨"storage_class", .optional⟩]

def ofToml? (toml : Toml) : Option DiskGroup := do
  match ← toml.slots false fields with
  | [some name, type, disks, autoUpdate, storageClass] =>
    return { name := ← name.string?
             type := ← Toml.default? .others DiskGroupType.ofToml? type
             disks := ← Toml.default? [] (Toml.list? Toml.string?) disks
             autoUpdate := ← Toml.default? false Toml.boolean? autoUpdate
             storageClass := ← Toml.absent? Toml.string? storageClass }
  | _ => none

end DiskGroup

namespace MemorySpec

def fields : List Toml.Field :=
  [⟨"sga_size", .optional⟩, ⟨"pga_size", .optional⟩, ⟨"container_limit", .optional⟩,
   ⟨"hugepages_limit", .optional⟩]

def ofToml? (toml : Toml) : Option MemorySpec := do
  match ← toml.slots false fields with
  | [sga, pga, container, hugepages] =>
    return { sgaSize := ← Toml.absent? Toml.string? sga
             pgaSize := ← Toml.absent? Toml.string? pga
             containerLimit := ← Toml.absent? Toml.string? container
             hugepagesLimit := ← Toml.absent? Toml.string? hugepages }
  | _ => none

end MemorySpec

namespace ClusterSpec

def fields : List Toml.Field :=
  [⟨"name", .required⟩, ⟨"namespace", .defaulted⟩, ⟨"topology", .required⟩,
   ⟨"disk_groups", .defaulted⟩, ⟨"memory", .defaulted⟩, ⟨"sysctls", .defaulted⟩,
   ⟨"service_name", .optional⟩, ⟨"db_name", .optional⟩]

/-- The declaration that a document holds, before its names are compared. -/
def decode? (toml : Toml) : Option ClusterSpec := do
  match ← toml.slots false fields with
  | [some name, ns, some topology, diskGroups, memory, sysctls, serviceName, dbName] =>
    return { name := ← name.string?
             ns := ← Toml.default? "default" Toml.string? ns
             topology := ← Topology.ofToml? topology
             diskGroups := ← Toml.default? [] (Toml.list? DiskGroup.ofToml?) diskGroups
             memory := ← Toml.default? {} MemorySpec.ofToml? memory
             sysctls := ← Toml.default? ∅ Toml.dict? sysctls
             serviceName := ← Toml.absent? Toml.string? serviceName
             declaredDbName := ← Toml.absent? Toml.string? dbName }
  | _ => none

/-- The declaration, unless two of its nodes have one name. -/
def checkNames (spec : ClusterSpec) : Except ConfigError ClusterSpec :=
  match firstRepeated [] (spec.nodes.map (·.name)) with
  | some name => .error (.duplicateNode name)
  | none => .ok spec

def ofToml (toml : Toml) : Except ConfigError ClusterSpec :=
  match decode? toml with
  | some spec => spec.checkNames
  | none => .error .unreadable

def parse (contents : String) : Except ConfigError ClusterSpec :=
  match Toml.parse? contents with
  | some toml => ofToml toml
  | none => .error .unreadable

end ClusterSpec

end ClusterWatch
