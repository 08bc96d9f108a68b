import ClusterWatch.Json.Printer
import ClusterWatch.Json.Reader
import ClusterWatch.Status.Basic

/-!
The snapshot as JSON.

Writing puts the fields in the order of their declaration and a dictionary in the order of its
keys. Reading takes records as objects or as arrays, passes over members that it does not know, and
lets the optional fields of an object be missing.
-/

namespace ClusterWatch

namespace NodeState

def toJson (s : NodeState) : Json :=
  .text s.keyword

def ofJson? (json : Json) : Option NodeState := do
  ofChars? (← json.text?).toList

end NodeState

namespace DiskGroupType

def toJson (t : DiskGroupType) : Json :=
  .text t.keyword

/-- A type as a string, or as the name of the only member of an object, whose value is `null`. -/
def ofJson? : Json → Option DiskGroupType
  | .text s => ofKeyword? s
  | .object [(some name, .null)] => ofKeyword? name
  | _ => none

end DiskGroupType

namespace NodeStatus

def fields : List Json.Field :=
  [⟨"name", .required⟩, ⟨"podState", .required⟩, ⟨"clusterState", .required⟩,
   ⟨"instanceState", .required⟩, ⟨"state", .required⟩, ⟨"mountedDevices", .required⟩,
   ⟨"vipDetails", .required⟩, ⟨"pvcDetails", .required⟩]

def toJson (n : NodeStatus) : Json :=
  .record [("name", .text n.name), ("podState", n.podState.toJson),
    ("clusterState", .text n.clusterState.keyword),
    ("instanceState", .text n.instanceState.keyword), ("state", n.state.toJson),
    ("mountedDevices", .texts n.mountedDevices), ("vipDetails", .ofDict n.vipDetails),
    ("pvcDetails", .ofDict n.pvcDetails)]

def ofJson? (json : Json) : Option NodeStatus := do
  match ← json.slots fields with
  | [some name, some podState, some clusterState, some instanceState, some state,
      some mountedDevices, some vipDetails, some pvcDetails] =>
    return { name := ← name.text?
             podState := ← NodeState.ofJson? podState
             clusterState := ClusterHealth.parse (← clusterState.text?)
             instanceState := InstanceState.parse (← instanceState.text?)
             state := ← NodeState.ofJson? state
             mountedDevices := ← mountedDevices.list? Json.text?
             vipDetails := ← vipDetails.dict?
             pvcDetails := ← pvcDetails.dict? }
  | _ => none

end NodeStatus

namespace DiskStatus

def fields : List Json.Field :=
  [⟨"name", .required⟩, ⟨"sizeGb", .required⟩, ⟨"valid", .required⟩]

def toJson (d : DiskStatus) : Json :=
  .record [("name", .text d.name), ("sizeGb", .count d.sizeGb.toNat), ("valid", .bool d.valid)]

def ofJson? (json : Json) : Option DiskStatus := do
  match ← json.slots fields with
  | [some name, some sizeGb, some valid] =>
    return { name := ← name.text?, sizeGb := ← sizeGb.uint64?, valid := ← valid.bool? }
  | _ => none

end DiskStatus

namespace DiskGroupStatus

def fields : List Json.Field :=
  [⟨"name", .required⟩, ⟨"type", .nullable⟩, ⟨"redundancy", .required⟩,
   ⟨"autoUpdate", .required⟩, ⟨"storageClass", .nullable⟩, ⟨"disks", .required⟩]

def toJson (g : DiskGroupStatus) : Json :=
  .record [("name", .text g.name), ("type", .nullable DiskGroupType.toJson g.type),
    ("redundancy", .text g.redundancy), ("autoUpdate", .bool g.autoUpdate),
    ("storageClass", .nullable .text g.storageClass),
    ("disks", .array (g.disks.map DiskStatus.toJson))]

def ofJson? (json : Json) : Option DiskGroupStatus := do
  match ← json.slots fields with
  | [some name, type, some redundancy, some autoUpdate, storageClass, some disks] =>
    return { name := ← name.text?
             type := ← Json.absent? DiskGroupType.ofJson? type
             redundancy := ← redundancy.text?
             autoUpdate := ← autoUpdate.bool?
             storageClass := ← Json.absent? Json.text? storageClass
             disks := ← disks.list? DiskStatus.ofJson? }
  | _ => none

end DiskGroupStatus

namespace DatabaseStatus

def fields : List Json.Field :=
  [⟨"dbState", .required⟩, ⟨"role", .required⟩, ⟨"releaseUpdate", .required⟩,
   ⟨"connectString", .required⟩, ⟨"pdbConnectString", .required⟩, ⟨"serviceName", .nullable⟩,
   ⟨"serviceState", .nullable⟩, ⟨"gridHome", .nullable⟩]

def toJson (d : DatabaseStatus) : Json :=
  .record [("dbState", .text d.dbState), ("role", .text d.role),
    ("releaseUpdate", .text d.releaseUpdate), ("connectString", .text d.connectString),
    ("pdbConnectString", .text d.pdbConnectString),
    ("serviceName", .nullable .text d.serviceName),
    ("serviceState", .nullable .text d.serviceState), ("gridHome", .nullable .text d.gridHome)]

def ofJson? (json : Json) : Option DatabaseStatus := do
  match ← json.slots fields with
  | [some dbState, some role, some releaseUpdate, some connectString, some pdbConnectString,
      serviceName, serviceState, gridHome] =>
    return { dbState := ← dbState.text?
             role := ← role.text?
             releaseUpdate := ← releaseUpdate.text?
             connectString := ← connectString.text?
             pdbConnectString := ← pdbConnectString.text?
             serviceName := ← Json.absent? Json.text? serviceName
             serviceState := ← Json.absent? Json.text? serviceState
             gridHome := ← Json.absent? Json.text? gridHome }
  | _ => none

end DatabaseStatus

namespace Timestamp

def toJson (t : Timestamp) : Json :=
  .text t.render

def ofJson? (json : Json) : Option Timestamp := do
  parse? (← json.text?)

end Timestamp

namespace ClusterStatus

def fields : List Json.Field :=
  [⟨"state", .required⟩, ⟨"nodes", .required⟩, ⟨"asmDiskGroups", .required⟩,
   ⟨"database", .required⟩, ⟨"observedAt", .nullable⟩]

def toJson (s : ClusterStatus) : Json :=
  .record [("state", s.state.toJson), ("nodes", .array (s.nodes.map NodeStatus.toJson)),
    ("asmDiskGroups", .array (s.diskGroups.map DiskGroupStatus.toJson)),
    ("database", s.database.toJson), ("observedAt", .nullable Timestamp.toJson s.observedAt)]

def ofJson? (json : Json) : Option ClusterStatus := do
  match ← json.slots fields with
  | [some state, some nodes, some groups, some database, observedAt] =>
    return { state := ← NodeState.ofJson? state
             nodes := ← nodes.list? NodeStatus.ofJson?
             diskGroups := ← groups.list? DiskGroupStatus.ofJson?
             database := ← DatabaseStatus.ofJson? database
             observedAt := ← Json.absent? Timestamp.ofJson? observedAt }
  | _ => none

def render (s : ClusterStatus) : String :=
  s.toJson.pretty

def parse? (text : String) : Option ClusterStatus := do
  ofJson? (← Json.parse? text)

end ClusterStatus

end ClusterWatch
