import ClusterWatch.Diagnostic.Console
import ClusterWatch.FirstMatch
import ClusterWatch.Status.Basic

/-!
The lifecycle of one node through one pass.

In every pass a node is given a phase, which the platform's objects decide. `updateNode` folds the
phase and fresh diagnostics into the node's entry of the snapshot: a present pod rebuilds the entry,
an absent pod marks it unavailable without running anything, a missing workload removes it, and a
failed node stays as it is until it reports a healthy cluster and an open instance.
-/

namespace ClusterWatch

/-- What a pod's own diagnostics tell about its node. -/
structure Vitals where
  clusterState : ClusterHealth
  instanceState : InstanceState
deriving DecidableEq

/-- The clusterware is healthy and the instance is open. -/
def Vitals.areGood (v : Vitals) : Bool :=
  v.clusterState = .healthy && v.instanceState = .opened

namespace Console

/-- A new entry for a node with a present pod. -/
def observe (c : Console) (node : NodeSpec) (phase : NodeState) (vitals : Vitals) : NodeStatus where
  name := node.name
  podState := phase
  clusterState := vitals.clusterState
  instanceState := vitals.instanceState
  mountedDevices := c.mountedDevices node.podName
  vipDetails := c.vipDetails node.vipService
  pvcDetails := node.pvc

/-- The entry belongs to the node with a name. -/
def isFor (name : String) (entry : NodeStatus) : Bool :=
  entry.name = name

/-- The entry of a node whose pod is absent. -/
def absentEntry (c : Console) (node : NodeSpec) (phase : NodeState) (entry : NodeStatus) :
    NodeStatus :=
  { entry with
    podState := phase
    clusterState := .notAvailable
    instanceState := .notAvailable
    vipDetails := c.vipDetails node.vipService
    pvcDetails := ∅ }

variable {σ : Type} {m : Type → Type} [Channel σ m] [Monad m]

def vitals (c : Console σ) (pod : String) : m Vitals := do
  let clusterState ← c.clusterHealth pod
  let instanceState ← c.instanceState pod
  return { clusterState, instanceState }

/-- The lifecycle state that follows `previous`: an open instance makes the node available, a node
that is still being brought up is where its state file says, and any other starts over. -/
def nextState (c : Console σ) (pod : String) (instanceState : InstanceState)
    (previous : NodeState) : m NodeState := do
  if instanceState = .opened then return .available
  else if previous.isInProgress then c.stateFile pod
  else return .pending

variable [Notifies m]

/-- The entries with a node whose pod is present: its entry is rebuilt, or added as pending. -/
def updatePresent (c : Console σ) (nodes : List NodeStatus) (node : NodeSpec) (phase : NodeState)
    (vitals : Vitals) : m (List NodeStatus) := do
  let observed ← c.see (·.observe node phase vitals)
  match nodes.find? (isFor node.name) with
  | some entry =>
    let state ← c.nextState node.podName vitals.instanceState entry.state
    notifyIf (state ≠ entry.state) (.stateChanged node.name entry.state state)
    return modifyFirst (isFor node.name) (fun _ => { observed with state }) nodes
  | none =>
    Notifies.notify (.tracking node.name)
    return nodes ++ [observed]

/-- The entries with a node whose pod is absent: its entry, or a new one, is marked unavailable. -/
def updateAbsent (c : Console σ) (nodes : List NodeStatus) (node : NodeSpec) (phase : NodeState) :
    m (List NodeStatus) := do
  let nodes :=
    if nodes.any (isFor node.name) then nodes else nodes ++ [{ name := node.name }]
  let before := (nodes.find? (isFor node.name)).map (·.podState)
  notifyIf (before ≠ some phase) (.podUnavailable node.name phase)
  let absent ← c.see (·.absentEntry node phase)
  return modifyFirst (isFor node.name) absent nodes

def removeNode (nodes : List NodeStatus) (node : NodeSpec) : m (List NodeStatus) := do
  notifyIf (nodes.any (isFor node.name)) (.removed node.name)
  return nodes.filter fun entry => !isFor node.name entry

/-- The entries after a node was given a phase. -/
def updateNode (c : Console σ) (nodes : List NodeStatus) (node : NodeSpec) (phase : NodeState) :
    m (List NodeStatus) := do
  match phase with
  | .available | .podAvailable =>
    let vitals ← c.vitals node.podName
    c.updatePresent nodes node phase vitals
  | .failed =>
    let vitals ← c.vitals node.podName
    if vitals.areGood then
      Notifies.notify (.recovered node.name)
      c.updatePresent nodes node .available vitals
    else return nodes
  | .statefulSetNotFound => removeNode nodes node
  | .podNotFound | .podNotReady | .podFailure => c.updateAbsent nodes node phase
  | _ => return nodes

end Console

end ClusterWatch
