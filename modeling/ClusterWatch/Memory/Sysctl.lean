import ClusterWatch.Dict
import ClusterWatch.Memory.Size

/-!
Kernel shared-memory parameters of a database node.

The parameters follow from the declared sizes of the node's memory, and a combination of sizes that
they cannot follow from is refused: the platform does not let them be changed on a running node.
All sizes are bytes, `shmall` is pages, and zero means that nothing was declared.
-/

namespace ClusterWatch.Memory

/-- What is wrong with a node's declared memory. -/
inductive ValidationError where
  | containerMemoryBelowMinimum (memory : UInt64)
  | pgaExceedsContainer (pga memory : UInt64)
  | sgaExceedsContainer (sga memory : UInt64)
  | shmmaxBelowSga (shmmax sga : UInt64)
  | shmmaxBelowHugePages (shmmax hugePages : UInt64)
  | shmmaxAboveContainer (shmmax limit : UInt64)
  | hugePagesBelowSga (hugePages sga : UInt64)
  | shmallTooSmall (shmall required : UInt64)
  | sgaTooLarge (sga : UInt64)
  | invalidQuantity (field value : String)
deriving DecidableEq, Repr

/-- One gibibyte. -/
def headroom : UInt64 :=
  UInt64.ofNat gibibyte

/-- The least memory limit that a node's container may have. -/
def minContainerMemory : UInt64 :=
  16 * headroom

def pageSize : UInt64 :=
  4096

def defaultSem : String :=
  "250 32000 100 128"

def defaultShmmni : String :=
  "4096"

def shmmaxName : String := "kernel.shmmax"
def shmallName : String := "kernel.shmall"
def semName : String := "kernel.sem"
def shmmniName : String := "kernel.shmmni"

def ValidationError.message : ValidationError → String
  | containerMemoryBelowMinimum memory =>
    "container memory (" ++ toString memory ++ ") is less than the minimum required ("
      ++ toString minContainerMemory ++ ")"
  | pgaExceedsContainer pga memory =>
    "PGA_TARGET (" ++ toString pga ++ ") cannot be greater than container memory ("
      ++ toString memory ++ ")"
  | sgaExceedsContainer sga memory =>
    "SGA_TARGET (" ++ toString sga ++ ") cannot be greater than container memory ("
      ++ toString memory ++ ")"
  | shmmaxBelowSga shmmax sga =>
    "user-provided shmmax (" ++ toString shmmax ++ ") cannot be less than SGA_TARGET ("
      ++ toString sga ++ ")"
  | shmmaxBelowHugePages shmmax hugePages =>
    "user-provided shmmax (" ++ toString shmmax ++ ") cannot be less than huge pages memory ("
      ++ toString hugePages ++ ")"
  | shmmaxAboveContainer shmmax limit =>
    "user-provided shmmax (" ++ toString shmmax
      ++ ") must not exceed container memory - 1GiB (" ++ toString limit ++ ")"
  | hugePagesBelowSga hugePages sga =>
    "huge pages (" ++ toString hugePages ++ ") must be >= SGA_TARGET (" ++ toString sga ++ ")"
  | shmallTooSmall shmall required =>
    "user-provided shmall (" ++ toString shmall ++ ") is too small; minimum required is "
      ++ toString required ++ " pages"
  | sgaTooLarge sga =>
    "SGA_TARGET (" ++ toString sga ++ ") is too large to leave 1GiB of shared memory headroom"
  | invalidQuantity field value => "invalid " ++ field ++ " value '" ++ value ++ "'"

/-- The declared memory of a node. -/
structure Sizing where
  sga : UInt64 := 0
  pga : UInt64 := 0
  container : UInt64 := 0
  hugePages : UInt64 := 0
  userShmmax : UInt64 := 0
  userShmall : UInt64 := 0

/-- Kernel parameters for one node: computed ones, or declared ones that are passed on as they
are. Without either, nothing is tuned. -/
structure Sysctls where
  shmmax : Option UInt64 := none
  shmall : Option UInt64 := none
  sem : Option String := none
  shmmni : Option String := none
  overrides : Dict String := ∅
deriving DecidableEq

namespace Sysctls

def isEmpty (s : Sysctls) : Bool :=
  s.shmmax.isNone && s.shmall.isNone && s.sem.isNone && s.shmmni.isNone && s.overrides.isEmpty

/-- The parameters with computed limits and the usual semaphores. -/
def computed (shmmax shmall : UInt64) : Sysctls where
  shmmax := some shmmax
  shmall := some shmall
  sem := some defaultSem
  shmmni := some defaultShmmni

/-- The names and values for the node's security context; declared ones stand for themselves. -/
def toPairs (s : Sysctls) : List (String × String) :=
  if s.overrides.isEmpty then
    (s.shmmax.toList.map fun n => (shmmaxName, toString n))
      ++ (s.shmall.toList.map fun n => (shmallName, toString n))
      ++ (s.sem.toList.map fun v => (semName, v))
      ++ (s.shmmni.toList.map fun v => (shmmniName, v))
  else s.overrides.entries

end Sysctls

/-- The SGA with one gibibyte of headroom, if that fits into 64 bits. -/
def sgaWithHeadroom (sga : UInt64) : Except ValidationError UInt64 :=
  if sga.toNat + headroom.toNat < UInt64.size then .ok (sga + headroom)
  else .error (.sgaTooLarge sga)

/-- The limit of one segment on a node without a memory limit. -/
def Sizing.shmmaxUnlimited (s : Sizing) : Except ValidationError UInt64 :=
  if 0 < s.userShmmax then
    if s.userShmmax < s.sga then .error (.shmmaxBelowSga s.userShmmax s.sga)
    else .ok s.userShmmax
  else sgaWithHeadroom s.sga

/-- The limit of one segment that the declarations ask for inside a container: the declared one, or
the huge pages, or half the container, or the SGA with headroom. -/
def Sizing.shmmaxWanted (s : Sizing) : Except ValidationError UInt64 :=
  if 0 < s.userShmmax then
    if s.userShmmax < s.sga then .error (.shmmaxBelowSga s.userShmmax s.sga)
    else if 0 < s.hugePages ∧ s.userShmmax < s.hugePages then
      .error (.shmmaxBelowHugePages s.userShmmax s.hugePages)
    else if s.container - headroom < s.userShmmax then
      .error (.shmmaxAboveContainer s.userShmmax (s.container - headroom))
    else .ok s.userShmmax
  else if 0 < s.hugePages then
    if s.hugePages < s.sga then .error (.hugePagesBelowSga s.hugePages s.sga)
    else .ok s.hugePages
  else if s.sga < s.container / 2 then .ok (s.container / 2)
  else sgaWithHeadroom s.sga

/-- The limit of one segment inside a container, at most one gibibyte less than the container. -/
def Sizing.shmmaxLimited (s : Sizing) : Except ValidationError UInt64 := do
  if s.container < s.pga then throw (.pgaExceedsContainer s.pga s.container)
  if s.container < s.sga then throw (.sgaExceedsContainer s.sga s.container)
  let wanted ← s.shmmaxWanted
  return if s.container ≤ wanted then s.container - headroom else wanted

/-- The least number of pages that hold so many bytes. -/
def pagesOf (size : UInt64) : UInt64 :=
  size / pageSize + if size % pageSize = 0 then 0 else 1

/-- The total of pages: the declared one if it is enough, or the least that is. -/
def Sizing.shmallFor (s : Sizing) (shmmax : UInt64) : Except ValidationError UInt64 :=
  let required := pagesOf shmmax
  if 0 < s.userShmall then
    if s.userShmall < required then .error (.shmallTooSmall s.userShmall required)
    else .ok s.userShmall
  else .ok required

/-- The kernel parameters that the declared sizes ask for. -/
def Sizing.sysctls (s : Sizing) : Except ValidationError Sysctls := do
  if 0 < s.container ∧ s.container < minContainerMemory then
    throw (.containerMemoryBelowMinimum s.container)
  if s.container = 0 ∧ s.sga = 0 ∧ s.pga = 0 then
    return {}
  let shmmax ← if s.container = 0 then s.shmmaxUnlimited else s.shmmaxLimited
  return Sysctls.computed shmmax (← s.shmallFor shmmax)

end ClusterWatch.Memory
