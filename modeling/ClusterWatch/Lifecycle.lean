import ClusterWatch.Text.Blank
import ClusterWatch.Text.WordEnd

/-!
Lifecycle states of nodes and of the cluster as a whole.

A cluster's state is `aggregate` of its nodes' states: the state of lowest rank decides, and a
state without a rank never does. `aggregateRaw` does the same with texts, and `ofStateFile` reads
the state that the node's own provisioning keeps in a file.
-/

namespace ClusterWatch

/-- A stage of provisioning, or what is wrong with the platform objects behind a node. -/
inductive NodeState where
  | pending
  | provisioning
  | addNode
  | update
  | failed
  | available
  | podAvailable
  | statefulSetNotFound
  | podNotFound
  | podNotReady
  | podFailure
deriving DecidableEq, Repr

structure UnknownState where
  text : String
deriving DecidableEq, Repr

def UnknownState.message (e : UnknownState) : String :=
  "unrecognized node state '" ++ e.text ++ "'"

namespace NodeState

def keyword : NodeState → String
  | pending => "PENDING"
  | provisioning => "PROVISIONING"
  | addNode => "ADDNODE"
  | update => "UPDATE"
  | failed => "FAILED"
  | available => "AVAILABLE"
  | podAvailable => "PODAVAILABLE"
  | statefulSetNotFound => "STATEFULSETNOTFOUND"
  | podNotFound => "PODNOTFOUND"
  | podNotReady => "PODNOTREADY"
  | podFailure => "PODFAILURE"

/-- The place of a state in the order of precedence; the lowest decides. -/
def rank : NodeState → Option Nat
  | failed => some 0
  | pending => some 1
  | provisioning => some 2
  | update => some 3
  | addNode => some 4
  | podAvailable => some 5
  | _ => none

/-- The node is still being brought up, so that its state file is to be believed as long as its
instance is not open. -/
def isInProgress : NodeState → Bool
  | pending | addNode | provisioning | failed | update => true
  | _ => false

/-- The pod is missing, unready or failed. -/
def isPodAbsent : NodeState → Bool
  | podNotFound | podNotReady | podFailure => true
  | _ => false

/-- The state that a keyword in upper case names; two of the states have a second keyword. -/
def ofKeyword? : String → Option NodeState
  | "PENDING" => some pending
  | "PROVISIONING" => some provisioning
  | "ADDNODE" => some addNode
  | "RACINSTADDITION" => some addNode
  | "UPDATE" => some update
  | "UPDATING" => some update
  | "FAILED" => some failed
  | "AVAILABLE" => some available
  | "PODAVAILABLE" => some podAvailable
  | "STATEFULSETNOTFOUND" => some statefulSetNotFound
  | "PODNOTFOUND" => some podNotFound
  | "PODNOTREADY" => some podNotReady
  | "PODFAILURE" => some podFailure
  | _ => none

/-- The keyword that a text spells: blanks around it are dropped, underscores and hyphens
anywhere, and ASCII letters are raised. -/
def normalize (cs : List Char) : List Char :=
  ((Text.trim cs).filter fun c => c ≠ '_' ∧ c ≠ '-').map Char.toUpper

def ofChars? (cs : List Char) : Option NodeState :=
  ofKeyword? (String.ofList (normalize cs))

/-- The state that a text names, or the text as unknown. -/
def parse (s : String) : Except UnknownState NodeState :=
  match ofChars? s.toList with
  | some state => .ok state
  | none => .error ⟨s⟩

/-- The state that decides of two: the one of lower rank, the earlier if their ranks are equal. -/
def decisive (best : Option NodeState) (state : NodeState) : Option NodeState :=
  match best.bind rank, state.rank with
  | _, none => best
  | none, some _ => some state
  | some r, some r' => if r' < r then some state else best

/-- The state of a cluster with nodes in the given states. Without nodes it is pending, and if no
state has a rank it is available. -/
def aggregate (states : List NodeState) : NodeState :=
  if states.isEmpty then pending else (states.foldl decisive none).getD available

/-- The text in lower case, without blanks around it. -/
def lowered (s : String) : List Char :=
  Text.lowercaseText (Text.trim s.toList)

/-- The state of a cluster with nodes in the states that the texts name. A text that names no
state counts as a node and never decides. -/
def aggregateRaw (texts : List String) : NodeState :=
  let known := texts.filterMap fun s => ofChars? (lowered s)
  if texts.isEmpty then pending
  else if known.isEmpty then available
  else aggregate known

/-- The state that the contents of a node's provisioning file tell. -/
def ofStateFile (contents : String) : NodeState :=
  match String.ofList (lowered contents) with
  | "provisioning" => provisioning
  | "addnode" => addNode
  | "failed" => failed
  | "completed" => available
  | _ => pending

theorem ofChars?_keyword (state : NodeState) : ofChars? state.keyword.toList = some state := by
  cases state <;> decide

example : ofChars? " Rac_Inst-Addition\n".toList = some addNode := by decide
example : aggregate [available, addNode, provisioning] = provisioning := by decide
example : aggregate [statefulSetNotFound] = available := by decide
example : aggregateRaw ["?", " FAILED "] = failed ∧ aggregateRaw ["?"] = available := by decide

end NodeState

end ClusterWatch
