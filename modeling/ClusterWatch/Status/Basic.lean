import ClusterWatch.Health
import ClusterWatch.Lifecycle
import ClusterWatch.Spec.Basic
import ClusterWatch.Timestamp

/-!
What was observed about a cluster: the snapshot that every pass replaces.

The snapshot lists nodes and disk groups in the order in which they came to be known. Lookups by
name take the first entry with the name.
-/

namespace ClusterWatch

structure NodeStatus where
  name : String
  /-- The phase in which the node was last probed. -/
  podState : NodeState := .pending
  clusterState : ClusterHealth := .pending
  instanceState : InstanceState := .pending
  /-- The lifecycle state, which depends on the passes before. -/
  state : NodeState := .pending
  mountedDevices : List String := []
  vipDetails : Dict String := ∅
  pvcDetails : Dict String := ∅
deriving DecidableEq

structure DiskStatus where
  name : String
  /-- The size in gigabytes, zero until it is discovered. -/
  sizeGb : UInt64
  valid : Bool
deriving DecidableEq, Repr

structure DiskGroupStatus where
  name : String
  /-- The declared type, if the group is declared. -/
  type : Option DiskGroupType
  redundancy : String
  autoUpdate : Bool
  storageClass : Option String
  disks : List DiskStatus
deriving DecidableEq, Repr

/-- What was observed about the database, on one node. -/
structure DatabaseStatus where
  dbState : String := ""
  role : String := ""
  releaseUpdate : String := ""
  connectString : String := ""
  pdbConnectString : String := ""
  serviceName : Option String := none
  serviceState : Option String := none
  gridHome : Option String := none
deriving DecidableEq, Repr

structure ClusterStatus where
  state : NodeState := .pending
  nodes : List NodeStatus := []
  diskGroups : List DiskGroupStatus := []
  database : DatabaseStatus := {}
  observedAt : Option Timestamp := none
deriving DecidableEq

def ClusterStatus.node? (s : ClusterStatus) (name : String) : Option NodeStatus :=
  s.nodes.find? (·.name = name)

def ClusterStatus.nodeStates (s : ClusterStatus) : List NodeState :=
  s.nodes.map (·.state)

/-- Why a cluster does not count as healthy. -/
inductive HealthError where
  | noHealthyNode
  | notAllHealthy (healthy total : Nat)
deriving DecidableEq, Repr

def HealthError.message : HealthError → String
  | noHealthyNode => "no healthy node exists"
  | notAllHealthy healthy total =>
    "only " ++ toString healthy ++ " of " ++ toString total ++ " nodes are healthy"

/-- The node's clusterware reports healthy. -/
def NodeStatus.isHealthy (node : NodeStatus) : Bool :=
  node.clusterState = .healthy

def healthyNode (nodes : List NodeStatus) : Except HealthError NodeStatus :=
  match nodes.find? NodeStatus.isHealthy with
  | some node => .ok node
  | none => .error .noHealthyNode

/-- The number of nodes, if all of them are healthy. -/
def healthyNodeCount (nodes : List NodeStatus) : Except HealthError Nat :=
  let healthy := nodes.countP NodeStatus.isHealthy
  if healthy = nodes.length then .ok healthy else .error (.notAllHealthy healthy nodes.length)

end ClusterWatch
