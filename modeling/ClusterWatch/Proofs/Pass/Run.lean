import ClusterWatch.Pass.Reconcile

/-!
Runs of passes.

On a platform that changes from pass to pass, a pass is what it finds: the platform as it is then,
and the time. A run takes one declaration through any list of these. On a platform that stays as it
is, `Reconciler.run` is the run, and one more time is one more pass.
-/

namespace ClusterWatch

/-- What a pass finds: the platform as it is then, and the time. -/
structure Round where
  platform : Platform
  now : Timestamp

namespace ClusterSpec

/-- The passes over the cluster on the platform of a round. -/
def reconcilerAt (spec : ClusterSpec) (scripts : Diagnostic.Scripts) (round : Round) : Reconciler :=
  Reconciler.on spec round.platform scripts

def passOver (spec : ClusterSpec) (scripts : Diagnostic.Scripts) (status : ClusterStatus)
    (round : Round) : ClusterStatus :=
  ((spec.reconcilerAt scripts round).reconcile round.now status).value

/-- The snapshot after a run of passes, each from the snapshot before. -/
def runOver (spec : ClusterSpec) (scripts : Diagnostic.Scripts) (status : ClusterStatus)
    (rounds : List Round) : ClusterStatus :=
  rounds.foldl (spec.passOver scripts) status

variable {spec : ClusterSpec} {scripts : Diagnostic.Scripts} {status : ClusterStatus}

theorem runOver_concat (rounds : List Round) (round : Round) :
    spec.runOver scripts status (rounds ++ [round]) =
      spec.passOver scripts (spec.runOver scripts status rounds) round := by
  rw [runOver, List.foldl_append]
  rfl

/-- What the first snapshot satisfies and every pass keeps, every snapshot of a run satisfies. -/
theorem runOver_induction {P : ClusterStatus → Prop} (hstart : P status)
    (hpass : ∀ before round, P before → P (spec.passOver scripts before round))
    (rounds : List Round) : P (spec.runOver scripts status rounds) := by
  induction rounds generalizing status with
  | nil => exact hstart
  | cons round rounds ih => exact ih (hpass status round hstart)

end ClusterSpec

namespace Reconciler

variable {r : Reconciler} {now : Timestamp} {status : ClusterStatus}

theorem nodes_reconcile :
    (r.reconcile now status).value.nodes = (r.foldPhases status.nodes r.probedPhases).value :=
  rfl

theorem state_reconcile :
    (r.reconcile now status).value.state =
      NodeState.aggregate ((r.reconcile now status).value.nodes.map (·.state)) :=
  rfl

theorem value_run_cons (times : List Timestamp) :
    (r.run status (now :: times)).value = (r.run (r.reconcile now status).value times).value :=
  rfl

theorem value_run_concat (times : List Timestamp) :
    (r.run status (times ++ [now])).value =
      (r.reconcile now (r.run status times).value).value := by
  induction times generalizing status with
  | nil => rfl
  | cons first times ih =>
      rw [List.cons_append, value_run_cons, value_run_cons]
      exact ih

/-- After a pass the state of the cluster is the aggregate of its nodes' states. -/
theorem state_run {times : List Timestamp} (htimes : times ≠ []) :
    (r.run status times).value.state =
      NodeState.aggregate (r.run status times).value.nodeStates := by
  induction times generalizing status with
  | nil => exact absurd rfl htimes
  | cons first times ih =>
      cases times with
      | nil => rfl
      | cons second times =>
          rw [value_run_cons]
          exact ih (List.cons_ne_nil second times)

end Reconciler

end ClusterWatch
