import ClusterWatch.CommandLine.Arguments
import ClusterWatch.CommandLine.Environment
import ClusterWatch.Network.Allocation
import ClusterWatch.Pass.Reconcile
import ClusterWatch.Platform.Fixture
import ClusterWatch.Spec.Reader
import ClusterWatch.Spec.Sysctls
import ClusterWatch.Status.Json
import ClusterWatch.Storage.Name

/-!
Carrying out a command: from the files that it reads to the text that it prints.

Every command reads the declaration first. It prints all of its text, or none and fails.
-/

namespace ClusterWatch.CommandLine

inductive FileError where
  | missing
  | directory
  | notText
  | other (reason : String)
deriving DecidableEq, Repr

def FileError.message : FileError → String
  | missing => "No such file or directory (os error 2)"
  | directory => "Is a directory (os error 21)"
  | notText => "stream did not contain valid UTF-8"
  | other reason => reason

inductive CommandError where
  | configNotRead (path : String) (reason : FileError)
  | badConfig (reason : ConfigError)
  | badMemoryOf (cluster : String) (reason : Memory.ValidationError)
  | badMemory (reason : Memory.ValidationError)
  | fixtureNotRead (path : String) (reason : FileError)
  | badFixture (path : String)
deriving DecidableEq, Repr

def CommandError.message : CommandError → String
  | configNotRead path reason =>
    "could not read config file '" ++ path ++ "': " ++ reason.message
  | badConfig reason => reason.message
  | badMemoryOf cluster reason =>
    "Invalid memory configuration for " ++ cluster ++ ": " ++ reason.message
  | badMemory reason => "Invalid memory configuration: " ++ reason.message
  | fixtureNotRead path reason =>
    "Could not open fixture file \"" ++ path ++ "\": " ++ reason.message
  | badFixture path => "Invalid fixture file \"" ++ path ++ "\": not a platform fixture"

abbrev Files := String → Except FileError String

def printLines (lines : List String) : String :=
  String.join (lines.map (· ++ "\n"))

def printSysctls (spec : ClusterSpec) : Except CommandError String := do
  let conf ← spec.kernelParameters.mapError (.badMemoryOf spec.name)
  if conf.isEmpty then
    return printLines ["# no kernel parameters: memory sizing is not declared"]
  return printLines (conf.toPairs.map fun (name, value) => name ++ " = " ++ value)

def nodeLine (node : NodeSpec) : String :=
  "node " ++ node.name ++ ": pod=" ++ node.podName ++ " vip=" ++ node.vipService

/-- The line of the storage objects behind a disk. -/
def storageLine (spec : ClusterSpec) (group : DiskGroup) (disk : String) : String :=
  group.name ++ " " ++ disk ++ ": pvc=" ++ Storage.resourceName .volumeClaim disk spec.name
    ++ " pv=" ++ Storage.resourceName .volume disk spec.name

/-- Prints the names of nodes and storage objects, or of storage objects alone. -/
def printNames (spec : ClusterSpec) (storageOnly : Bool) : String :=
  printLines ((if storageOnly then [] else spec.nodes.map nodeLine)
    ++ spec.diskGroups.flatMap fun group => group.disks.map (storageLine spec group))

def printSummary (spec : ClusterSpec) : Except CommandError String := do
  let _ ← spec.kernelParameters.mapError .badMemory
  let deviceLine (type : DiskGroupType) : List String :=
    let devices := spec.devicesOfType type
    if devices = "" then [] else [type.keyword ++ " devices: " ++ devices]
  return printLines (
    ["Cluster " ++ spec.name ++ " in namespace " ++ spec.ns ++ ": " ++ spec.topology.label
      ++ " topology with " ++ toString spec.nodes.length ++ " nodes"]
    ++ (spec.nodes.map fun node =>
      "    " ++ node.name ++ " (ordinal " ++ toString node.ordinal ++ ", "
        ++ toString node.privateNetworks.length ++ " private networks)")
    ++ [toString spec.diskGroups.length ++ " disk groups:"]
    ++ (spec.diskGroups.map fun group =>
      "    " ++ group.name ++ " [" ++ group.type.keyword ++ "]: "
        ++ toString group.disks.length ++ " disks")
    ++ deviceLine .crs ++ deviceLine .dbData)

/-- The lines of a node's environment file that list devices. -/
def deviceLines (status : ClusterStatus) : List String :=
  [Diagnostic.crsDevicesName ++ "=" ++ Disks.devicesByType status.diskGroups .crs,
    Diagnostic.dbDevicesName ++ "=" ++ Disks.devicesByType status.diskGroups .dbData]

/-- The line of a node's network annotation. -/
def networkLine (spec : ClusterSpec) (platform : Platform) (node : NodeSpec) : String :=
  let ids := (Network.allocateAll platform spec.ns node.ordinal node.privateNetworks).value
  node.name ++ ": " ++ Network.annotationKey ++ " = " ++ Network.annotation ids

/-- Runs passes on the platform of a fixture and prints the last snapshot. -/
def printStatus (spec : ClusterSpec) (scripts : Diagnostic.Scripts) (now : Timestamp)
    (platform : Platform) (passes : Nat) (networks deviceEnv : Bool) : String :=
  let passed := (Reconciler.live spec scripts).run {} (List.replicate passes now) platform
  printLines ([passed.value.render]
    ++ (if deviceEnv then deviceLines passed.value else [])
    ++ (if networks then spec.nodes.map (networkLine spec passed.platform) else []))

def loadSpec (env : Environment) (files : Files) (config : Option String) :
    Except CommandError ClusterSpec := do
  let path := config.getD env.configPath
  let contents ← (files path).mapError (.configNotRead path)
  (ClusterSpec.parse contents).mapError .badConfig

/-- The text that a command prints, at the time `now`. -/
def run (env : Environment) (files : Files) (now : Timestamp) (args : Arguments) :
    Except CommandError String := do
  let spec ← loadSpec env files args.config
  match args.command with
  | .sysctls => printSysctls spec
  | .names storageOnly => return printNames spec storageOnly
  | .validate => printSummary spec
  | .status fixture passes networks deviceEnv =>
    let contents ← (files fixture).mapError (.fixtureNotRead fixture)
    match Platform.ofFixture? contents with
    | none => .error (.badFixture fixture)
    | some platform =>
      return printStatus spec env.scripts now platform passes networks deviceEnv

end ClusterWatch.CommandLine
