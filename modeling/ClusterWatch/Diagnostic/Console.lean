import ClusterWatch.Channel
import ClusterWatch.Diagnostic.Command
import ClusterWatch.Diagnostic.Output
import ClusterWatch.Health
import ClusterWatch.Lifecycle

/-!
Running diagnostics in the pods of a cluster.

A command reaches a pod only if the pod exists and is running; otherwise its output is empty, since
a node that is still coming up has nothing to say yet. A diagnostic that fails is not an error of
the pass: it answers with a placeholder. Only the grid home and the device lists hand the failure
on, and their caller decides.
-/

namespace ClusterWatch

/-- Access to the pods of one cluster, on a platform at hand or on the current one. -/
structure Console (σ : Type := Platform) where
  platform : σ
  ns : String
  scripts : Diagnostic.Scripts

namespace Console

open Diagnostic

/-- Access that goes to the platform that a computation is carried out on. -/
def live (ns : String) (scripts : Diagnostic.Scripts) : Console Current where
  platform := {}
  ns
  scripts

def isRunning (c : Console) (pod : String) : Bool :=
  match c.platform.pod c.ns pod with
  | .ok info => info.phase = .running
  | .error _ => false

/-- The devices attached to a pod's containers; none for a missing pod. -/
def mountedDevices (c : Console) (pod : String) : List String :=
  match c.platform.pod c.ns pod with
  | .ok info => info.devices
  | .error _ => []

/-- The details of a virtual IP service; none for a missing service. -/
def vipDetails (c : Console) (service : String) : Dict String :=
  match c.platform.service c.ns service with
  | .error _ => ∅
  | .ok info =>
    Dict.ofList ([("name", info.name)]
      ++ (info.clusterIp.toList.map fun ip => ("clusterIp", ip))
      ++ (info.externalIp.toList.map fun ip => ("externalIp", ip)))

variable {σ : Type} {m : Type → Type} [Channel σ m] [Monad m]

/-- Something that shows on the platform as it is by then. -/
def see {α : Type} (c : Console σ) (f : Console → α) : m α := do
  let platform ← Channel.look c.platform
  return f { platform, ns := c.ns, scripts := c.scripts }

/-- Runs a command in a pod. -/
def run (c : Console σ) (pod : String) (argv : List String) :
    m (Except ExecError ExecOutput) := do
  if ← c.see (·.isRunning pod) then Channel.exec c.platform pod argv else return .ok {}

/-- On a platform at hand it is seen at once. -/
@[simp]
theorem see_bind {α β : Type} (c : Console) (f : Console → α) (g : α → Journal β) :
    (c.see f >>= g) = g (f c) :=
  rfl

theorem run_eq_ite (c : Console) (pod : String) (argv : List String) :
    c.run pod argv =
      if c.isRunning pod then { value := c.platform.answer pod argv, execs := [⟨pod, argv⟩] }
      else pure (.ok {}) :=
  rfl

/-- What a diagnostic printed, or `none` if it failed. -/
def probe (c : Console σ) (pod : String) (argv : List String) : m (Option String) := do
  match ← c.run pod argv with
  | .ok out => return some out.stdout
  | .error _ => return none

/-- What a diagnostic of text printed, without blanks around it. -/
def probeText (c : Console σ) (pod : String) (argv : List String) : m String := do
  match ← c.probe pod argv with
  | some out => return Text.trimmed out
  | none => return pendingText

def clusterHealth (c : Console σ) (pod : String) : m ClusterHealth := do
  match ← c.probe pod c.scripts.clusterHealth with
  | some out => return ClusterHealth.parse out
  | none => return .pending

def instanceState (c : Console σ) (pod : String) : m InstanceState := do
  match ← c.probe pod c.scripts.instanceState with
  | some out => return InstanceState.parse out
  | none => return .pending

/-- The disk groups mounted on a node; none when they are not known. -/
def diskGroups (c : Console σ) (pod : String) : m (List String) := do
  match ← c.probe pod c.scripts.diskGroups with
  | some out => return groupsOf out
  | none => return []

/-- The disks of a group; none when they are not known. -/
def disks (c : Console σ) (pod group : String) : m (List String) := do
  match ← c.probe pod (c.scripts.disks group) with
  | some out => return disksOf out
  | none => return []

def redundancy (c : Console σ) (pod group : String) : m String :=
  c.probeText pod (c.scripts.redundancy group)

def stateFile (c : Console σ) (pod : String) : m NodeState := do
  match ← c.probe pod Diagnostic.stateFile with
  | some out => return NodeState.ofStateFile out
  | none => return .pending

def dbState (c : Console σ) (pod : String) : m String :=
  c.probeText pod c.scripts.dbState

def dbRole (c : Console σ) (pod : String) : m String :=
  c.probeText pod c.scripts.dbRole

def connectString (c : Console σ) (pod : String) : m String :=
  c.probeText pod c.scripts.connectString

def pdbConnectString (c : Console σ) (pod : String) : m String :=
  c.probeText pod c.scripts.pdbConnectString

/-- The release of the database; an answer that tells of an error is no release. -/
def dbVersion (c : Console σ) (pod : String) : m String := do
  match ← c.probe pod c.scripts.dbVersion with
  | some out =>
    if Text.holds "ERROR".toList out.toList then return notAvailableText
    else return Text.trimmed out
  | none => return pendingText

def serviceState (c : Console σ) (pod service database : String) : m String :=
  c.probeText pod (c.scripts.serviceState service database)

def gridHome (c : Console σ) (pod : String) : m (Except ExecError String) := do
  match ← c.run pod Diagnostic.gridHome with
  | .ok out => return .ok (gridHomeOf out.stdout)
  | .error e => return .error e

/-- The devices in a line of a node's environment file. -/
def deviceList (c : Console σ) (pod : String) (argv : List String) :
    m (Except ExecError (List String)) := do
  match ← c.run pod argv with
  | .ok out => return parseDevices pod out.stdout
  | .error e => return .error e

def crsDeviceList (c : Console σ) (pod : String) : m (Except ExecError (List String)) :=
  c.deviceList pod Diagnostic.crsDeviceList

def dbDeviceList (c : Console σ) (pod : String) : m (Except ExecError (List String)) :=
  c.deviceList pod Diagnostic.dbDeviceList

end Console

end ClusterWatch
