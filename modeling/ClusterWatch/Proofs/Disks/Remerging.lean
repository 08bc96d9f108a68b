import ClusterWatch.Proofs.Disks.Discovery

/-!
Merging the same discovered groups again.

The disks of discovered groups are the first reports of their names, so a disk is told the same by
whichever of the groups reaches it, and one telling is enough. A discovered group that has been
merged or added stays recorded while others are, even if one of them is put between: then that one
has the same reports. Main statement: `applyDiscovered_applyDiscovered`.
-/

namespace ClusterWatch.Disks

/-- The disks of the group are the first reports of their names. -/
def ReportedBy (reports : List DiskStatus) (found : DiskGroupStatus) : Prop :=
  ∀ member ∈ found.disks, reports.find? (·.name = member.name) = some member

/-- The group that a discovered one would be merged into has all that it tells. -/
def IsRecorded (groups : List DiskGroupStatus) (found : DiskGroupStatus) : Prop :=
  ∃ group, groups.find? (target groups found) = some group ∧
    DiskGroupStatus.merge found group = group

section reports

variable {reports : List DiskStatus} {found other group : DiskGroupStatus} {member : DiskStatus}

theorem reportedBy_discoveredGroups {spec : ClusterSpec} {discovered : List DiskGroupStatus}
    (h : discoveredGroups spec reports = .ok discovered) (hfound : found ∈ discovered) :
    ReportedBy reports found := by
  obtain ⟨d, hdisks⟩ := exists_reportedMembers_of_mem h hfound
  intro member hmember
  exact find?_of_mem_reportedMembers (hdisks ▸ hmember)

theorem diskMerge_diskMerge (reports : List DiskStatus) (member : DiskStatus) :
    DiskStatus.merge reports (DiskStatus.merge reports member) =
      DiskStatus.merge reports member := by
  cases hfirst : reports.find? (·.name = member.name) with
  | none => simp only [DiskStatus.merge, hfirst]
  | some report =>
      simp only [DiskStatus.merge, hfirst]
      by_cases hsize : member.sizeGb = 0 <;> simp [hsize]

/-- A discovered group tells a disk nothing, or what its first report says. -/
theorem ReportedBy.diskMerge_cases (h : ReportedBy reports found) (member : DiskStatus) :
    DiskStatus.merge found.disks member = member ∨
      DiskStatus.merge found.disks member = DiskStatus.merge reports member := by
  cases hfirst : found.disks.find? (·.name = member.name) with
  | none =>
      left
      rw [DiskStatus.merge, hfirst]
  | some report =>
      have hname : report.name = member.name := key_of_find? hfirst
      have hreports : reports.find? (·.name = member.name) = some report := by
        rw [← hname]
        exact h report (List.mem_of_find?_eq_some hfirst)
      right
      rw [DiskStatus.merge, DiskStatus.merge, hfirst, hreports]

/-- A disk that has all that a discovered group tells has it after any other as well. -/
theorem ReportedBy.diskMerge_fixed (hfound : ReportedBy reports found)
    (hother : ReportedBy reports other) (h : DiskStatus.merge found.disks member = member) :
    DiskStatus.merge found.disks (DiskStatus.merge other.disks member) =
      DiskStatus.merge other.disks member := by
  rcases hother.diskMerge_cases member with hnothing | hreported
  · rw [hnothing, h]
  · rw [hreported]
    rcases hfound.diskMerge_cases (DiskStatus.merge reports member) with hsame | hagain
    · exact hsame
    · exact hagain.trans (diskMerge_diskMerge reports member)

theorem merge_eq_self_iff : DiskGroupStatus.merge found group = group ↔
    ∀ member ∈ group.disks, DiskStatus.merge found.disks member = member := by
  have hdisks : DiskGroupStatus.merge found group = group ↔
      group.disks.map (DiskStatus.merge found.disks) = group.disks.map id := by
    rw [List.map_id]
    constructor
    · exact fun h => congrArg (·.disks) h
    · exact fun h => by rw [DiskGroupStatus.merge, h]
  exact hdisks.trans List.map_inj_left

theorem merge_merge (found group : DiskGroupStatus) :
    DiskGroupStatus.merge found (DiskGroupStatus.merge found group) =
      DiskGroupStatus.merge found group := by
  rw [merge_eq_self_iff]
  intro member hmember
  obtain ⟨old, -, rfl⟩ := List.mem_map.1 hmember
  exact diskMerge_diskMerge found.disks old

/-- A group that has all that a discovered one tells has it after any other as well. -/
theorem ReportedBy.merge_fixed (hfound : ReportedBy reports found)
    (hother : ReportedBy reports other) (h : DiskGroupStatus.merge found group = group) :
    DiskGroupStatus.merge found (DiskGroupStatus.merge other group) =
      DiskGroupStatus.merge other group := by
  rw [merge_eq_self_iff] at h ⊢
  intro member hmember
  obtain ⟨old, hold, rfl⟩ := List.mem_map.1 hmember
  exact hfound.diskMerge_fixed hother (h old hold)

theorem ReportedBy.merge_eq_self (hfound : ReportedBy reports found)
    (hother : ReportedBy reports other) : DiskGroupStatus.merge found other = other := by
  rw [merge_eq_self_iff]
  intro member hmember
  rcases hfound.diskMerge_cases member with hnothing | hreported
  · exact hnothing
  · rw [hreported, DiskStatus.merge, hother member hmember]
    simp only [ite_self]

end reports

section recorded

variable {groups others : List DiskGroupStatus} {found other group : DiskGroupStatus}
  {reports : List DiskStatus}

theorem map_shape_modifyFirst_merge (p : DiskGroupStatus → Bool) (found : DiskGroupStatus)
    (groups : List DiskGroupStatus) :
    (modifyFirst p (DiskGroupStatus.merge found) groups).map (·.shape) =
      groups.map (·.shape) :=
  map_modifyFirst (fun _ _ => shape_merge) groups

theorem IsRecorded.applyGroup_eq (h : IsRecorded groups found) :
    applyGroup groups found = groups := by
  obtain ⟨group, hgroup, hmerge⟩ := h
  rcases applyGroup_cases groups found with ⟨-, hvalue⟩ | ⟨hnew, -⟩
  · rw [hvalue]
    apply modifyFirst_of_fixed
    intro first hfirst
    obtain rfl := Option.some.inj (hgroup.symm.trans hfirst)
    exact hmerge
  · have htarget := List.find?_some hgroup
    have hmem := List.mem_of_find?_eq_some hgroup
    rw [target_of_not_mem fun other hother => (hnew other hother).1, (hnew group hmem).2] at htarget
    cases htarget

theorem isNew_of_find?_target_eq_none (h : groups.find? (target groups found) = none) :
    IsNew groups found := by
  rw [List.find?_eq_none] at h
  have hname : ∀ group ∈ groups, group.name ≠ found.name := by
    intro group hgroup heq
    apply h group hgroup
    rw [target_of_mem ⟨group, hgroup, heq⟩]
    exact decide_eq_true heq
  rw [target_of_not_mem hname] at h
  exact fun group hgroup => ⟨hname group hgroup, Bool.eq_false_iff.2 (h group hgroup)⟩

/-- A discovered group that is added is found by its name. -/
theorem find?_target_concat (hnew : ∀ group ∈ groups, group.name ≠ found.name)
    (hname : other.name = found.name) :
    (groups ++ [other]).find? (target (groups ++ [other]) found) = some other := by
  rw [target_of_mem ⟨other, List.mem_append_right groups List.mem_cons_self, hname⟩,
    List.find?_append, List.find?_eq_none.2 (by simpa using hnew)]
  simp [hname]

/-- A discovered group is recorded once it has been merged or added. -/
theorem isRecorded_applyGroup (hfound : ReportedBy reports found) :
    IsRecorded (applyGroup groups found) found := by
  rcases applyGroup_cases groups found with ⟨hknown, hvalue⟩ | ⟨hnew, hvalue⟩
  · cases hgroup : groups.find? (target groups found) with
    | none => exact absurd (isNew_of_find?_target_eq_none hgroup) hknown
    | some group =>
        have hshape := map_shape_modifyFirst_merge (target groups found) found groups
        refine ⟨DiskGroupStatus.merge found group, ?_, merge_merge found group⟩
        rw [hvalue, target_congr hshape, find?_modifyFirst_self _ groups, hgroup]
        · rfl
        · intro first hfirst
          rw [target_eq_of_shape shape_merge, hfirst]
  · refine ⟨found, ?_, hfound.merge_eq_self hfound⟩
    rw [hvalue]
    exact find?_target_concat (fun group hgroup => (hnew group hgroup).1) rfl

/-- A recorded group stays recorded while another is added. -/
theorem IsRecorded.concat (h : IsRecorded groups found) (hfound : ReportedBy reports found)
    (hother : ReportedBy reports other) : IsRecorded (groups ++ [other]) found := by
  obtain ⟨group, hgroup, hmerge⟩ := h
  by_cases hname : ∃ group ∈ groups, group.name = found.name
  · refine ⟨group, ?_, hmerge⟩
    obtain ⟨named, hnamed, heq⟩ := hname
    rw [target_of_mem ⟨named, hnamed, heq⟩] at hgroup
    rw [target_of_mem ⟨named, List.mem_append_left _ hnamed, heq⟩, List.find?_append, hgroup]
    rfl
  · have hnone : ∀ group ∈ groups, group.name ≠ found.name :=
      fun group hgroup heq => hname ⟨group, hgroup, heq⟩
    by_cases hsame : other.name = found.name
    · -- The added group has the name, and so it is found in front of any stand-in.
      exact ⟨other, find?_target_concat hnone hsame, hfound.merge_eq_self hother⟩
    · have hnames : ∀ group ∈ groups ++ [other], group.name ≠ found.name := by
        simpa [or_imp, forall_and] using ⟨hnone, hsame⟩
      refine ⟨group, ?_, hmerge⟩
      rw [target_of_not_mem hnone] at hgroup
      rw [target_of_not_mem hnames, List.find?_append, hgroup]
      rfl

/-- A recorded group stays recorded while others are merged or added. -/
theorem IsRecorded.applyGroup (h : IsRecorded groups found) (hfound : ReportedBy reports found)
    (hother : ReportedBy reports other) : IsRecorded (applyGroup groups other) found := by
  rcases applyGroup_cases groups other with ⟨-, hvalue⟩ | ⟨-, hvalue⟩
  · obtain ⟨group, hgroup, hmerge⟩ := h
    have hshape := map_shape_modifyFirst_merge (target groups other) other groups
    have hkept : ∀ group, target groups found (DiskGroupStatus.merge other group) =
        target groups found group := fun _ => target_eq_of_shape shape_merge
    rw [IsRecorded, hvalue, target_congr hshape]
    rcases find?_modifyFirst_cases hkept groups with hsame | hchanged
    · exact ⟨group, hsame.trans hgroup, hmerge⟩
    · rw [hgroup] at hchanged
      exact ⟨DiskGroupStatus.merge other group, hchanged, hfound.merge_fixed hother hmerge⟩
  · rw [hvalue]
    exact h.concat hfound hother

end recorded

section applyDiscovered

variable {groups discovered : List DiskGroupStatus} {found : DiskGroupStatus}
  {reports : List DiskStatus}

theorem IsRecorded.applyDiscovered (h : IsRecorded groups found) (hfound : ReportedBy reports found)
    (hdiscovered : ∀ found ∈ discovered, ReportedBy reports found) :
    IsRecorded (applyDiscovered groups discovered) found := by
  induction discovered generalizing groups with
  | nil => exact h
  | cons other discovered ih =>
      obtain ⟨hother, hrest⟩ := List.forall_mem_cons.1 hdiscovered
      rw [applyDiscovered_cons]
      exact ih (h.applyGroup hfound hother) hrest

/-- All discovered groups are recorded in the end. -/
theorem isRecorded_applyDiscovered (hdiscovered : ∀ found ∈ discovered, ReportedBy reports found) :
    ∀ found ∈ discovered, IsRecorded (applyDiscovered groups discovered) found := by
  induction discovered generalizing groups with
  | nil => exact nofun
  | cons other discovered ih =>
      obtain ⟨hother, hrest⟩ := List.forall_mem_cons.1 hdiscovered
      intro found hfound
      rw [applyDiscovered_cons]
      rcases List.mem_cons.1 hfound with rfl | hlater
      · exact (isRecorded_applyGroup hother).applyDiscovered hother hrest
      · exact ih hrest found hlater

theorem applyDiscovered_eq_self (h : ∀ found ∈ discovered, IsRecorded groups found) :
    applyDiscovered groups discovered = groups := by
  induction discovered with
  | nil => rfl
  | cons found discovered ih =>
      obtain ⟨hfound, hrest⟩ := List.forall_mem_cons.1 h
      rw [applyDiscovered_cons, hfound.applyGroup_eq]
      exact ih hrest

/-- Merging groups that one list of reports told of again changes nothing. -/
theorem applyDiscovered_applyDiscovered
    (hdiscovered : ∀ found ∈ discovered, ReportedBy reports found) :
    applyDiscovered (applyDiscovered groups discovered) discovered =
      applyDiscovered groups discovered :=
  applyDiscovered_eq_self (isRecorded_applyDiscovered hdiscovered)

end applyDiscovered

end ClusterWatch.Disks
