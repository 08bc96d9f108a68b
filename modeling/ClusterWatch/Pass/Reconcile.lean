import ClusterWatch.Pass.Disks
import ClusterWatch.Pass.Node

/-!
One pass over a cluster: from the previous snapshot to the next.

A pass keeps nothing of its own. It probes the phase of every declared node, folds the phases into
the node entries in ordinal order, takes the cluster-wide facts from one node, records disk sizes,
and aggregates the state. It changes the platform only by what it runs there.
-/

namespace ClusterWatch

/-- A declared cluster and the access to its pods. -/
structure Reconciler (σ : Type := Platform) where
  spec : ClusterSpec
  console : Console σ

namespace Reconciler

/-- Passes over a declared cluster on a platform that is at hand. -/
def on (spec : ClusterSpec) (platform : Platform) (scripts : Diagnostic.Scripts) : Reconciler where
  spec := spec
  console := { platform, ns := spec.ns, scripts }

/-- Passes over a declared cluster that are carried out on a platform. -/
def live (spec : ClusterSpec) (scripts : Diagnostic.Scripts) : Reconciler Current where
  spec := spec
  console := .live spec.ns scripts

/-- The phase that the platform's objects give a node. -/
def probePhase (r : Reconciler) (node : NodeSpec) : NodeState :=
  match r.console.platform.workload r.spec.ns node.name with
  | .error _ => .statefulSetNotFound
  | .ok _ =>
    match r.console.platform.pod r.spec.ns node.podName with
    | .error _ => .podNotFound
    | .ok pod =>
      if pod.phase = .failed then .podFailure
      else if !pod.ready then .podNotReady
      else .podAvailable

/-- Every declared node with its phase, in ordinal order. -/
def probedPhases (r : Reconciler) : List (NodeSpec × NodeState) :=
  r.spec.nodes.map fun node => (node, r.probePhase node)

/-- The node that cluster-wide facts are taken from: the first healthy one, or else the first. -/
def sourceOf (nodes : List NodeStatus) : Option NodeStatus :=
  (nodes.find? NodeStatus.isHealthy).or nodes.head?

variable {σ : Type} {m : Type → Type} [Channel σ m] [Monad m]

/-- What a pod tells about the declared service, if there is one. -/
def serviceState (r : Reconciler σ) (pod : String) : m (Option String) :=
  match r.spec.serviceName with
  | some service => some <$> r.console.serviceState pod service r.spec.dbName
  | none => pure none

/-- What a pod tells about the database. -/
def databaseStatus (r : Reconciler σ) (pod : String) : m DatabaseStatus := do
  let serviceState ← r.serviceState pod
  let dbState ← r.console.dbState pod
  let role ← r.console.dbRole pod
  let releaseUpdate ← r.console.dbVersion pod
  let connectString ← r.console.connectString pod
  let pdbConnectString ← r.console.pdbConnectString pod
  let gridHome ← r.console.gridHome pod
  return {
    dbState, role, releaseUpdate, connectString, pdbConnectString
    serviceName := r.spec.serviceName
    serviceState
    gridHome := gridHome.toOption.filter (· ≠ "") }

/-- The disk groups and the database facts that a pod tells; the groups known so far stay when it
lists none. -/
def sourceFacts (r : Reconciler σ) (pod : String) (previous : List DiskGroupStatus) :
    m (List DiskGroupStatus × DatabaseStatus) := do
  let listed ← r.console.aggregateGroups pod r.spec previous
  let known := if listed.isEmpty then previous else listed
  let groups ← r.console.fillConfigured pod known
  let database ← r.databaseStatus pod
  return (groups, database)

/-- The disk groups and the database facts after the node entries are up to date. -/
def clusterFacts (r : Reconciler σ) (previous : ClusterStatus) (nodes : List NodeStatus) :
    m (List DiskGroupStatus × DatabaseStatus) := do
  match sourceOf nodes with
  | some source => r.sourceFacts (podOf source.name) previous.diskGroups
  | none => return (previous.diskGroups, previous.database)

variable [Notifies m]

def foldPhases (r : Reconciler σ) (nodes : List NodeStatus)
    (phases : List (NodeSpec × NodeState)) : m (List NodeStatus) :=
  phases.foldlM (fun nodes (node, phase) => r.console.updateNode nodes node phase) nodes

/-- One pass with phases that the caller decides, observed at `now`. -/
def reconcileWithPhases (r : Reconciler σ) (now : Timestamp) (previous : ClusterStatus)
    (phases : List (NodeSpec × NodeState)) : m ClusterStatus := do
  let nodes ← r.foldPhases previous.nodes phases
  let (groups, database) ← r.clusterFacts previous nodes
  let diskGroups ← r.console.recordSizes r.spec groups
  let state := NodeState.aggregate (nodes.map (·.state))
  notifyIf (state ≠ previous.state)
    (.clusterStateChanged r.spec.name previous.state state)
  return { state, nodes, diskGroups, database, observedAt := some now }

/-- One pass, observed at `now`. -/
def reconcile (r : Reconciler σ) (now : Timestamp) (previous : ClusterStatus) :
    m ClusterStatus := do
  let phases ← r.console.see fun console => { r with console }.probedPhases
  r.reconcileWithPhases now previous phases

theorem reconcile_eq (r : Reconciler) (now : Timestamp) (previous : ClusterStatus) :
    r.reconcile now previous = r.reconcileWithPhases now previous r.probedPhases :=
  rfl

/-- Puts a fresh snapshot in the place of the caller's. -/
def applySnapshot (status fresh : ClusterStatus) : m ClusterStatus := do
  notifyIf (status.nodes.length ≠ fresh.nodes.length)
    (.nodeCountChanged status.nodes.length fresh.nodes.length)
  return fresh

/-- As many passes as there are times, each from the snapshot before. -/
def run (r : Reconciler σ) (status : ClusterStatus) : List Timestamp → m ClusterStatus
  | [] => pure status
  | now :: times => do
    let fresh ← r.reconcile now status
    let status ← applySnapshot status fresh
    r.run status times

end Reconciler

end ClusterWatch
