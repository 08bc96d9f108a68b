import ClusterWatch.Disks.Groups
import ClusterWatch.Network.Ipam

/-!
What happens besides the result of a computation: the commands that were run, and the notices for
whoever watches.

`Journal` is the result of a computation on a platform that is at hand, with these two lists as its
effects, in the order in which they happened.
-/

namespace ClusterWatch

/-- Something that whoever watches a cluster is told. -/
inductive Notice where
  | recovered (node : String)
  | stateChanged (node : String) (before after : NodeState)
  | tracking (node : String)
  | removed (node : String)
  | podUnavailable (node : String) (phase : NodeState)
  | clusterStateChanged (cluster : String) (before after : NodeState)
  | nodeCountChanged (before after : Nat)
  | networkSkipped (network : String) (ordinal : UInt32) (reason : Network.LookupError)
  | sizesNotRecorded (reason : Disks.SizeMismatch)
deriving DecidableEq, Repr

namespace Notice

/-- Something is wrong that the declaration or the platform should mend. -/
def isWarning : Notice → Bool
  | networkSkipped .. => true
  | sizesNotRecorded _ => true
  | _ => false

def message : Notice → String
  | recovered node => "Node " ++ node ++ " has recovered from FAILED"
  | stateChanged node before after =>
    "Node " ++ node ++ " changed state: " ++ before.keyword ++ " -> " ++ after.keyword
  | tracking node => "Tracking new node " ++ node
  | removed node => "Node " ++ node ++ " no longer has a workload; removed from status"
  | podUnavailable node phase => "Node " ++ node ++ " pod is unavailable: " ++ phase.keyword
  | clusterStateChanged cluster before after =>
    "Cluster " ++ cluster ++ " changed state: " ++ before.keyword ++ " -> " ++ after.keyword
  | nodeCountChanged before after =>
    "Node count changed: " ++ toString before ++ " -> " ++ toString after
  | networkSkipped network ordinal reason =>
    "Skipping private network '" ++ network ++ "' for node " ++ toString ordinal ++ ": "
      ++ reason.message
  | sizesNotRecorded reason => "Not recording disk sizes: " ++ reason.message

/-- The notice as a line, its level first. -/
def line (n : Notice) : String :=
  (if n.isWarning then "WARN " else "INFO ") ++ n.message

end Notice

/-- Computations of a kind can tell whoever watches. -/
class Notifies (m : Type → Type) where
  notify : Notice → m Unit

/-- Gives a notice if there is reason to. -/
def notifyIf {m : Type → Type} [Monad m] [Notifies m] (reason : Bool) (notice : Notice) : m Unit :=
  if reason then Notifies.notify notice else pure ()

/-- A result, the commands run for it and the notices given. -/
structure Journal (α : Type) where
  value : α
  execs : List Exec := []
  notices : List Notice := []

namespace Journal

variable {α β : Type}

def pure (value : α) : Journal α :=
  { value }

def bind (j : Journal α) (f : α → Journal β) : Journal β :=
  let k := f j.value
  ⟨k.value, j.execs ++ k.execs, j.notices ++ k.notices⟩

instance : Monad Journal where
  pure := pure
  bind := bind

/-- Runs nothing and gives a notice. -/
def notify (notice : Notice) : Journal Unit :=
  ⟨(), [], [notice]⟩

instance : Notifies Journal where
  notify := notify

@[simp]
theorem value_pure (a : α) : (Pure.pure a : Journal α).value = a :=
  rfl

@[simp]
theorem execs_pure (a : α) : (Pure.pure a : Journal α).execs = [] :=
  rfl

@[simp]
theorem notices_pure (a : α) : (Pure.pure a : Journal α).notices = [] :=
  rfl

@[simp]
theorem value_bind (j : Journal α) (f : α → Journal β) : (j >>= f).value = (f j.value).value :=
  rfl

@[simp]
theorem execs_bind (j : Journal α) (f : α → Journal β) :
    (j >>= f).execs = j.execs ++ (f j.value).execs :=
  rfl

@[simp]
theorem notices_bind (j : Journal α) (f : α → Journal β) :
    (j >>= f).notices = j.notices ++ (f j.value).notices :=
  rfl

/-- The result of computations one after the other is the fold of their results. -/
theorem value_foldlM (f : β → α → Journal β) (b : β) (as : List α) :
    (as.foldlM f b).value = as.foldl (fun b a => (f b a).value) b := by
  induction as generalizing b with
  | nil => rfl
  | cons a as ih => exact ih (f b a).value

end Journal

end ClusterWatch
