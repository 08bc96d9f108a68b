import ClusterWatch.Dict
import ClusterWatch.Spec.Basic
import ClusterWatch.Text.Blank

/-!
A scripted platform: the objects that exist and what every diagnostic answers.

Objects are found by name alone, whatever the namespace. A diagnostic is known by its pod and the
last word of its command; one that is not scripted is a command that the pod does not have. Running
a diagnostic changes nothing but the record of what was run.
-/

namespace ClusterWatch

/-- The kinds of object that a lookup can miss. -/
inductive ObjectKind where
  | workload
  | pod
  | service
  | networkAttachment
  | diskCheck
deriving DecidableEq, Repr

def ObjectKind.label : ObjectKind → String
  | workload => "workload"
  | pod => "pod"
  | service => "service"
  | networkAttachment => "network attachment"
  | diskCheck => "disk-check daemon set"

structure NotFound where
  kind : ObjectKind
  ns : String
  name : String
deriving DecidableEq, Repr

def NotFound.message (e : NotFound) : String :=
  e.kind.label ++ " '" ++ e.name ++ "' not found in namespace '" ++ e.ns ++ "'"

inductive PodPhase where
  | pending
  | running
  | succeeded
  | failed
  | unknown
deriving DecidableEq, Repr

def PodPhase.label : PodPhase → String
  | pending => "Pending"
  | running => "Running"
  | succeeded => "Succeeded"
  | failed => "Failed"
  | unknown => "Unknown"

/-- The phase with exactly this label; any other text is an unknown phase. -/
def PodPhase.ofLabel : String → PodPhase
  | "Pending" => pending
  | "Running" => running
  | "Succeeded" => succeeded
  | "Failed" => failed
  | _ => unknown

structure Pod where
  name : String
  phase : PodPhase
  ready : Bool
  /-- The device paths attached to the pod's containers. -/
  devices : List String
deriving DecidableEq

/-- The controller that owns a node's pod. -/
structure Workload where
  name : String
  replicas : Nat
  readyReplicas : Nat
deriving DecidableEq

structure Service where
  name : String
  clusterIp : Option String := none
  externalIp : Option String := none
deriving DecidableEq

structure ExecOutput where
  stdout : String := ""
  stderr : String := ""
deriving DecidableEq, Repr

/-- Why a command in a pod gave no usable output. -/
inductive ExecError where
  | stream (pod reason stdout stderr : String)
  | exit (pod : String) (status : Int) (stdout stderr : String)
  | unparsable (pod output : String)
deriving DecidableEq, Repr

namespace ExecError

def message : ExecError → String
  | stream pod reason _ _ => "exec stream into pod '" ++ pod ++ "' failed: " ++ reason
  | exit pod status _ stderr =>
    "command in pod '" ++ pod ++ "' exited with status " ++ toString status ++ ": "
      ++ Text.trimmed stderr
  | unparsable pod output => "unexpected output from pod '" ++ pod ++ "': '" ++ output ++ "'"

/-- What the command printed before it failed. -/
def stdout : ExecError → String
  | stream _ _ stdout _ => stdout
  | exit _ _ stdout _ => stdout
  | unparsable _ output => output

end ExecError

/-- The scripted answer of a diagnostic. -/
inductive Response where
  | output (out : ExecOutput)
  | exit (status : Int) (stderr : String)
  | stream (reason : String)
deriving DecidableEq

structure Exec where
  pod : String
  argv : List String
deriving DecidableEq, Repr

/-- The word by which a diagnostic is known. -/
def Exec.key (argv : List String) : String :=
  argv.getLast?.getD ""

structure Platform where
  workloads : Dict Workload := ∅
  pods : Dict Pod := ∅
  services : Dict Service := ∅
  attachments : Dict String := ∅
  /-- What each pod of the disk check printed. -/
  diskChecks : Dict String := ∅
  /-- The scripted answers by pod and word, the newest first. -/
  responses : List ((String × String) × Response) := []
  /-- Everything run so far, the oldest first. -/
  execLog : List Exec := []

namespace Platform

/-- Adds a node: its workload, a running and ready pod, and a virtual IP service. -/
def addNode (p : Platform) (name : String) : Platform :=
  { p with
    workloads := p.workloads.insert name ⟨name, 1, 1⟩
    pods := p.pods.insert (podOf name) ⟨podOf name, .running, true, []⟩
    services := p.services.insert (defaultVipService name) { name := defaultVipService name } }

def setPod (p : Platform) (pod : Pod) : Platform :=
  { p with pods := p.pods.insert pod.name pod }

def setPodPhase (p : Platform) (pod : String) (phase : PodPhase) (ready : Bool) : Platform :=
  { p with pods := p.pods.modify pod fun info => { info with phase, ready } }

def setDevices (p : Platform) (pod : String) (devices : List String) : Platform :=
  { p with pods := p.pods.modify pod fun info => { info with devices } }

def removePod (p : Platform) (pod : String) : Platform :=
  { p with pods := p.pods.erase pod }

/-- Removes a node's workload and the pod that it owns. -/
def removeWorkload (p : Platform) (name : String) : Platform :=
  { p with workloads := p.workloads.erase name, pods := p.pods.erase (podOf name) }

def setService (p : Platform) (service : Service) : Platform :=
  { p with services := p.services.insert service.name service }

def setAttachment (p : Platform) (name config : String) : Platform :=
  { p with attachments := p.attachments.insert name config }

def setDiskCheck (p : Platform) (pod log : String) : Platform :=
  { p with diskChecks := p.diskChecks.insert pod log }

def clearDiskChecks (p : Platform) : Platform :=
  { p with diskChecks := ∅ }

/-- Scripts the answer of a diagnostic. -/
def script (p : Platform) (pod command : String) (response : Response) : Platform :=
  { p with responses := ((pod, command), response) :: p.responses }

/-- Scripts a diagnostic to print a text. -/
def respond (p : Platform) (pod command stdout : String) : Platform :=
  p.script pod command (.output { stdout })

def fail (p : Platform) (pod command : String) (status : Int) : Platform :=
  p.script pod command (.exit status (command ++ ": failed"))

/-- Scripts the stream of a diagnostic to break. -/
def breakStream (p : Platform) (pod command : String) : Platform :=
  p.script pod command (.stream "connection reset")

/-- Adds commands that were run. -/
def record (p : Platform) (execs : List Exec) : Platform :=
  { p with execLog := p.execLog ++ execs }

def clearExecLog (p : Platform) : Platform :=
  { p with execLog := [] }

/-- How often a diagnostic was run in a pod. -/
def execCount (p : Platform) (pod command : String) : Nat :=
  p.execLog.countP fun e => e.pod = pod ∧ Exec.key e.argv = command

/-- An object, or what was missed. -/
def found {α : Type} (kind : ObjectKind) (ns name : String) : Option α → Except NotFound α
  | some a => .ok a
  | none => .error ⟨kind, ns, name⟩

def workload (p : Platform) (ns name : String) : Except NotFound Workload :=
  found .workload ns name (p.workloads.find? name)

def pod (p : Platform) (ns name : String) : Except NotFound Pod :=
  found .pod ns name (p.pods.find? name)

def service (p : Platform) (ns name : String) : Except NotFound Service :=
  found .service ns name (p.services.find? name)

/-- The configuration that a network attachment holds. -/
def attachment (p : Platform) (ns name : String) : Except NotFound String :=
  found .networkAttachment ns name (p.attachments.find? name)

/-- What the pods of a cluster's disk check printed, in the order of the pods' names. -/
def diskCheckLogs (p : Platform) (ns cluster : String) : Except NotFound (List String) :=
  if p.diskChecks.isEmpty then .error ⟨.diskCheck, ns, cluster⟩ else .ok p.diskChecks.values

def response? (p : Platform) (pod command : String) : Option Response :=
  p.responses.lookup (pod, command)

def answer (p : Platform) (pod : String) (argv : List String) : Except ExecError ExecOutput :=
  match p.response? pod (Exec.key argv) with
  | some (.output out) => .ok out
  | some (.exit status stderr) => .error (.exit pod status "" stderr)
  | some (.stream reason) => .error (.stream pod reason "" "")
  | none => .error (.exit pod 127 "" (Exec.key argv ++ ": command not found"))

/-- Runs a command in a pod: its answer, and the platform with the command on its record. -/
def exec (p : Platform) (pod : String) (argv : List String) :
    Except ExecError ExecOutput × Platform :=
  (p.answer pod argv, p.record [⟨pod, argv⟩])

end Platform

end ClusterWatch
