import ClusterWatch.Proofs.Checks
import ClusterWatch.Proofs.Disks.Merging

/-!
What a disk check's reports tell about the declared groups.

A discovered group is a declared one, and its disks are the first reports of their names. So all
discovered groups that have a disk agree about its size.
-/

namespace ClusterWatch.Disks

variable {reports : List DiskStatus} {declared : DiskGroup} {found : DiskGroupStatus}

/-- The size in the first report of a disk, or zero. -/
def reportedSize (reports : List DiskStatus) (disk : String) : UInt64 :=
  ((reports.find? (·.name = disk)).map (·.sizeGb)).getD 0

/-- A reported member is the first report of its name. -/
theorem find?_of_mem_reportedMembers {member : DiskStatus}
    (h : member ∈ reportedMembers reports declared) :
    reports.find? (·.name = member.name) = some member := by
  obtain ⟨name, -, hfirst⟩ := List.mem_filterMap.1 h
  have hname : member.name = name := key_of_find? hfirst
  rw [hname, hfirst]

theorem reportedSize_of_mem_reportedMembers {member : DiskStatus}
    (h : member ∈ reportedMembers reports declared) :
    reportedSize reports member.name = member.sizeGb := by
  rw [reportedSize, find?_of_mem_reportedMembers h]
  rfl

/-- A declared group with its reported members. -/
def foundGroup (reports : List DiskStatus) (declared : DiskGroup) : DiskGroupStatus where
  name := declared.name
  type := some declared.type
  redundancy := ""
  autoUpdate := declared.autoUpdate
  storageClass := declared.storageClass
  disks := reportedMembers reports declared

theorem of_discoveredGroup (h : discoveredGroup reports declared = .ok (some found)) :
    reportedMembers reports declared ≠ [] ∧ found = foundGroup reports declared := by
  rw [discoveredGroup] at h
  split at h
  · cases h
  · next first rest hmembers =>
      split at h
      · cases h
      · cases h
        rw [foundGroup, hmembers]
        exact ⟨List.cons_ne_nil first rest, rfl⟩

/-- The discovered groups are some of the declared ones, in their order. -/
theorem of_forall₂_discoveredGroup {declared : List DiskGroup}
    {groups : List (Option DiskGroupStatus)}
    (h : List.Forall₂ (fun d g => discoveredGroup reports d = .ok g) declared groups) :
    ((groups.filterMap id).map (·.name)).Sublist (declared.map (·.name)) ∧
      ∀ found ∈ groups.filterMap id, ∃ d ∈ declared,
        discoveredGroup reports d = .ok (some found) := by
  induction h with
  | nil => exact ⟨List.Sublist.slnil, nofun⟩
  | @cons d group others later hgroup _ ih =>
      have hlater : ∀ found ∈ later.filterMap id, ∃ d' ∈ d :: others,
          discoveredGroup reports d' = .ok (some found) := by
        intro found hfound
        obtain ⟨d', hd', hvalue⟩ := ih.2 found hfound
        exact ⟨d', List.mem_cons_of_mem d hd', hvalue⟩
      cases group with
      | none => exact ⟨ih.1.cons d.name, hlater⟩
      | some found =>
          have hcons : (some found :: later).filterMap id = found :: later.filterMap id := rfl
          have hname : found.name = d.name := by
            rw [(of_discoveredGroup hgroup).2, foundGroup]
          rw [hcons, List.map_cons, List.map_cons, hname, List.forall_mem_cons]
          exact ⟨ih.1.cons_cons d.name, ⟨d, List.mem_cons_self, hgroup⟩, hlater⟩

variable {spec : ClusterSpec} {discovered : List DiskGroupStatus}

theorem exists_of_discoveredGroups (h : discoveredGroups spec reports = .ok discovered) :
    ∃ groups, discovered = groups.filterMap id ∧
      List.Forall₂ (fun d g => discoveredGroup reports d = .ok g)
        (spec.diskGroups.filter (·.type ≠ .others)) groups := by
  obtain ⟨groups, hgroups, hvalue⟩ := bind_eq_ok_iff.1 h
  cases hvalue
  exact ⟨groups, rfl, forall₂_of_mapM_eq_ok hgroups⟩

theorem nodup_discoveredGroups (hspec : (spec.diskGroups.map (·.name)).Nodup)
    (h : discoveredGroups spec reports = .ok discovered) : (discovered.map (·.name)).Nodup := by
  obtain ⟨groups, rfl, hgroups⟩ := exists_of_discoveredGroups h
  have hdeclared : ((spec.diskGroups.filter (·.type ≠ .others)).map (·.name)).Nodup :=
    hspec.sublist (List.filter_sublist.map _)
  exact hdeclared.sublist (of_forall₂_discoveredGroup hgroups).1

/-- A discovered group comes from a declared one of a type other than `OTHERS`. -/
theorem exists_declared_of_mem (h : discoveredGroups spec reports = .ok discovered)
    (hfound : found ∈ discovered) :
    ∃ d ∈ spec.diskGroups, d.type ≠ .others ∧ discoveredGroup reports d = .ok (some found) := by
  obtain ⟨groups, rfl, hgroups⟩ := exists_of_discoveredGroups h
  obtain ⟨d, hd, hvalue⟩ := (of_forall₂_discoveredGroup hgroups).2 found hfound
  obtain ⟨hdeclared, htype⟩ := List.mem_filter.1 hd
  exact ⟨d, hdeclared, of_decide_eq_true htype, hvalue⟩

theorem exists_reportedMembers_of_mem (h : discoveredGroups spec reports = .ok discovered)
    (hfound : found ∈ discovered) : ∃ d, found.disks = reportedMembers reports d := by
  obtain ⟨d, -, -, hvalue⟩ := exists_declared_of_mem h hfound
  refine ⟨d, ?_⟩
  rw [(of_discoveredGroup hvalue).2, foundGroup]

/-- A discovered group that has a disk has it with the reported size. -/
theorem sizeIs_discoveredGroups (h : discoveredGroups spec reports = .ok discovered)
    (hfound : found ∈ discovered) (disk : String) :
    found.SizeIs disk (reportedSize reports disk) := by
  obtain ⟨d, hdisks⟩ := exists_reportedMembers_of_mem h hfound
  rintro member hmember rfl
  exact (reportedSize_of_mem_reportedMembers (hdisks ▸ hmember)).symm

end ClusterWatch.Disks
