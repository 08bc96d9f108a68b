import ClusterWatch.Dict

/-!
What is declared about a cluster, and the nodes that follow from it.

A cluster declares its nodes one by one, or as a count and a name to number. `ClusterSpec.nodes`
resolves either into the list of nodes, each with its ordinal: the position in the list, from
which its private addresses are counted.
-/

namespace ClusterWatch

/-- A private network that a node attaches to. -/
structure PrivateNetwork where
  /-- The network attachment that holds the addresses. -/
  name : String
  interface : String
  /-- The namespace of the attachment, when it is not the cluster's. -/
  ns : Option String := none
deriving DecidableEq

structure Instance where
  name : String
  workerNodes : List String := []
  vipService : Option String := none
  pvc : Dict String := ∅
  privateNetworks : List PrivateNetwork := []
deriving DecidableEq

/-- Nodes declared as a count, with names made from one text and a number. -/
structure Layout where
  nodeCount : UInt32
  nodeName : String
  workerNodes : List String := []
  privateNetworks : List PrivateNetwork := []
deriving DecidableEq

/-- The two ways of declaring nodes. -/
inductive Topology where
  | instances (instances : List Instance)
  | cluster (layout : Layout)
deriving DecidableEq

/-- What a disk group is for. -/
inductive DiskGroupType where
  | crs
  | dbData
  | dbRecovery
  | redo
  | others
deriving DecidableEq, Repr

def DiskGroupType.keyword : DiskGroupType → String
  | crs => "CRS"
  | dbData => "DBDATA"
  | dbRecovery => "DBRECOVERY"
  | redo => "REDO"
  | others => "OTHERS"

/-- The type with exactly this keyword. -/
def DiskGroupType.ofKeyword? : String → Option DiskGroupType
  | "CRS" => some crs
  | "DBDATA" => some dbData
  | "DBRECOVERY" => some dbRecovery
  | "REDO" => some redo
  | "OTHERS" => some others
  | _ => none

structure DiskGroup where
  name : String
  type : DiskGroupType := .others
  disks : List String := []
  autoUpdate : Bool := false
  storageClass : Option String := none
deriving DecidableEq

/-- Declared memory, each size in its notation. -/
structure MemorySpec where
  sgaSize : Option String := none
  pgaSize : Option String := none
  containerLimit : Option String := none
  hugepagesLimit : Option String := none
deriving DecidableEq

structure ClusterSpec where
  name : String
  ns : String := "default"
  topology : Topology
  diskGroups : List DiskGroup := []
  memory : MemorySpec := {}
  sysctls : Dict String := ∅
  serviceName : Option String := none
  /-- The name of the database, when it is not the cluster's. -/
  declaredDbName : Option String := none
deriving DecidableEq

/-- A node of a cluster, from either way of declaring it. -/
structure NodeSpec where
  ordinal : UInt32
  name : String
  workerNodes : List String
  vipService : String
  pvc : Dict String
  privateNetworks : List PrivateNetwork
deriving DecidableEq

/-- The pod of the node with the given name. -/
def podOf (node : String) : String :=
  node ++ "-0"

/-- The pod that runs the node's database software. -/
def NodeSpec.podName (node : NodeSpec) : String :=
  podOf node.name

/-- The virtual IP service that a node has unless it declares another. -/
def defaultVipService (node : String) : String :=
  node ++ "-vip"

def Instance.toNode (i : Instance) (ordinal : Nat) : NodeSpec where
  ordinal := UInt32.ofNat ordinal
  name := i.name
  workerNodes := i.workerNodes
  vipService := i.vipService.getD (defaultVipService i.name)
  pvc := i.pvc
  privateNetworks := i.privateNetworks

/-- The name of a numbered node; numbers start at one. -/
def Layout.nameAt (l : Layout) (ordinal : Nat) : String :=
  l.nodeName ++ toString (ordinal + 1)

def Layout.nodeAt (l : Layout) (ordinal : Nat) : NodeSpec where
  ordinal := UInt32.ofNat ordinal
  name := l.nameAt ordinal
  workerNodes := l.workerNodes
  vipService := defaultVipService (l.nameAt ordinal)
  pvc := ∅
  privateNetworks := l.privateNetworks

/-- The nodes, in the order of their ordinals. -/
def Topology.nodes : Topology → List NodeSpec
  | .instances is => is.mapIdx fun ordinal i => i.toNode ordinal
  | .cluster l => (List.range l.nodeCount.toNat).map l.nodeAt

/-- How the topology is called in a summary. -/
def Topology.label : Topology → String
  | .instances _ => "Instances"
  | .cluster _ => "Cluster"

/-- The first name that repeats one of `seen` or an earlier one. -/
def firstRepeated (seen : List String) : List String → Option String
  | [] => none
  | name :: names => if name ∈ seen then some name else firstRepeated (name :: seen) names

namespace ClusterSpec

def nodes (spec : ClusterSpec) : List NodeSpec :=
  spec.topology.nodes

def node? (spec : ClusterSpec) (name : String) : Option NodeSpec :=
  spec.nodes.find? (·.name = name)

def dbName (spec : ClusterSpec) : String :=
  spec.declaredDbName.getD spec.name

def diskGroup? (spec : ClusterSpec) (name : String) : Option DiskGroup :=
  spec.diskGroups.find? (·.name = name)

/-- Every declared device, in the order of declaration. -/
def devices (spec : ClusterSpec) : List String :=
  spec.diskGroups.flatMap (·.disks)

/-- The devices of the disk groups of a type, with commas between them; empty paths are left
out. -/
def devicesOfType (spec : ClusterSpec) (type : DiskGroupType) : String :=
  ",".intercalate
    (((spec.diskGroups.filter (·.type = type)).flatMap (·.disks)).filter (· ≠ ""))

end ClusterSpec

theorem Layout.nameAt_inj {l : Layout} {i j : Nat} (h : l.nameAt i = l.nameAt j) : i = j := by
  have hlist := congrArg String.toList h
  simp only [nameAt, String.toList_append] at hlist
  have hdigits := List.append_cancel_left hlist
  have hnumber := congrArg (fun ds => Nat.ofDigitChars 10 ds 0) hdigits
  simp only [Nat.toString_eq_ofList_toDigits, String.toList_ofList,
    Nat.ofDigitChars_ten_toDigits] at hnumber
  omega

/-- No name repeats one before it if the names are distinct and none was seen. -/
theorem firstRepeated_eq_none_iff {seen names : List String} :
    firstRepeated seen names = none ↔ names.Nodup ∧ ∀ name ∈ names, name ∉ seen := by
  induction names generalizing seen with
  | nil => simp [firstRepeated]
  | cons name names ih =>
    rw [firstRepeated]
    split
    · next h => simp [h]
    · next h =>
      rw [ih, List.nodup_cons]
      constructor
      · rintro ⟨hnodup, hseen⟩
        refine ⟨⟨fun hm => ?_, hnodup⟩, ?_⟩
        · exact hseen name hm List.mem_cons_self
        · intro n hn
          rcases List.mem_cons.1 hn with rfl | hn
          · exact h
          · exact fun hs => hseen n hn (List.mem_cons_of_mem _ hs)
      · rintro ⟨⟨hname, hnodup⟩, hseen⟩
        refine ⟨hnodup, fun n hn hs => ?_⟩
        rcases List.mem_cons.1 hs with rfl | hs
        · exact hname hn
        · exact hseen n (List.mem_cons_of_mem _ hn) hs

theorem DiskGroupType.ofKeyword?_keyword (type : DiskGroupType) :
    ofKeyword? type.keyword = some type := by
  cases type <;> decide

example : firstRepeated [] ["b", "a", "c", "a", "b"] = some "a" := by decide

end ClusterWatch
