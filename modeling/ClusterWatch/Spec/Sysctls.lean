import ClusterWatch.Memory.Sysctl
import ClusterWatch.Spec.Basic

/-!
The kernel parameters of a declared cluster's nodes.

When both limits are declared, the declared parameters are passed on as they are. Otherwise the
parameters follow from the declared memory, and a single declared limit enters the computation.
-/

namespace ClusterWatch.ClusterSpec

open Memory

def parseSize (field value : String) : Except ValidationError UInt64 :=
  match size? value with
  | some n => .ok n
  | none => .error (.invalidQuantity field value)

/-- A declared size, or zero when there is none or only blanks. -/
def parseOptionalSize (field : String) : Option String → Except ValidationError UInt64
  | none => .ok 0
  | some value =>
    if (Text.trim value.toList).isEmpty then .ok 0 else parseSize field value

/-- A declared number of pages, or zero when there is none. -/
def parseOptionalPages (field : String) : Option String → Except ValidationError UInt64
  | none => .ok 0
  | some value =>
    match Decimal.readUInt64? (Text.trim value.toList) with
    | some n => .ok n
    | none => .error (.invalidQuantity field value)

def sizing (spec : ClusterSpec) : Except ValidationError Sizing := do
  let sga ← parseOptionalSize "sgaSize" spec.memory.sgaSize
  let pga ← parseOptionalSize "pgaSize" spec.memory.pgaSize
  let container ← parseOptionalSize "memory limit" spec.memory.containerLimit
  let hugePages ← parseOptionalSize "hugepages limit" spec.memory.hugepagesLimit
  let userShmmax ← parseOptionalSize shmmaxName (spec.sysctls.find? shmmaxName)
  let userShmall ← parseOptionalPages shmallName (spec.sysctls.find? shmallName)
  return { sga, pga, container, hugePages, userShmmax, userShmall }

def kernelParameters (spec : ClusterSpec) : Except ValidationError Sysctls := do
  if spec.sysctls.contains shmmaxName && spec.sysctls.contains shmallName then
    return { overrides := spec.sysctls }
  (← spec.sizing).sysctls

end ClusterWatch.ClusterSpec
