import ClusterWatch.Proofs.Disks.Merging
import ClusterWatch.Proofs.Pointwise

/-!
Groups that are listed again take over recorded sizes.

What a listed group takes over of a disk is the size in the first group of its name that has the
disk. Merging keeps that size if it is not zero, and it does the same to groups that differ in other
disks only. So listing groups again after a merging either takes over what was taken over before, or
it takes over a size for good.
-/

namespace ClusterWatch

/-- The size of the first disk of a name. -/
def DiskGroupStatus.size? (group : DiskGroupStatus) (disk : String) : Option UInt64 :=
  (group.disks.find? (·.name = disk)).map (·.sizeGb)

namespace Disks

variable {groups others discovered : List DiskGroupStatus} {found first : DiskGroupStatus}
  {group disk : String}

theorem sizeGb_diskMerge (found : DiskGroupStatus) (member : DiskStatus) :
    (DiskStatus.merge found.disks member).sizeGb =
      if member.sizeGb = 0 then (found.size? member.name).getD 0 else member.sizeGb := by
  rw [DiskStatus.merge, DiskGroupStatus.size?]
  cases found.disks.find? (·.name = member.name) with
  | none => by_cases hsize : member.sizeGb = 0 <;> simp [hsize]
  | some report => rfl

/-- What merging does to the size of a disk. -/
theorem size?_merge (found first : DiskGroupStatus) (disk : String) :
    (DiskGroupStatus.merge found first).size? disk =
      (first.size? disk).map fun size =>
        if size = 0 then (found.size? disk).getD 0 else size := by
  have hfirst : (DiskGroupStatus.merge found first).size? disk =
      (first.disks.find? (·.name = disk)).map
        fun member => (DiskStatus.merge found.disks member).sizeGb := by
    rw [DiskGroupStatus.size?, DiskGroupStatus.merge, List.find?_map, Option.map_map]
    simp only [Function.comp_def, name_diskMerge]
  have hsize : first.size? disk = (first.disks.find? (·.name = disk)).map (·.sizeGb) := rfl
  rw [hfirst, hsize, Option.map_map]
  cases hmember : first.disks.find? (·.name = disk) with
  | none => rfl
  | some member =>
      have hname : member.name = disk := key_of_find? hmember
      simp only [Option.map_some, Function.comp_def, sizeGb_diskMerge, hname]

theorem recordedSize_cons : recordedSize (first :: groups) group disk =
    if first.name = group then (first.size? disk).getD (recordedSize groups group disk)
    else recordedSize groups group disk := by
  rw [recordedSize, recordedSize]
  by_cases hname : first.name = group
  · rw [if_pos hname, List.filter_cons_of_pos (by simpa using hname), List.flatMap_cons,
      List.find?_append, DiskGroupStatus.size?]
    cases first.disks.find? (·.name = disk) <;> rfl
  · rw [if_neg hname, List.filter_cons_of_neg (by simpa using hname)]

/-- Groups behind those that have recorded a size do not matter. -/
theorem recordedSize_append_of_ne_zero (h : recordedSize groups group disk ≠ 0) :
    recordedSize (groups ++ others) group disk = recordedSize groups group disk := by
  induction groups with
  | nil => exact absurd rfl h
  | cons first groups ih =>
      rw [recordedSize_cons] at h
      rw [List.cons_append, recordedSize_cons, recordedSize_cons]
      split
      · next hname =>
          cases hsize : first.size? disk with
          | some size => rfl
          | none =>
              rw [if_pos hname, hsize] at h
              exact ih h
      · next hname =>
          rw [if_neg hname] at h
          exact ih h

section keeping

/-- A group in the place of another has its name, and its disk, with the size if that was not
zero. -/
structure KeepsSize (disk : String) (old new : DiskGroupStatus) : Prop where
  name : old.name = new.name
  size? : ∃ f : UInt64 → UInt64, (∀ size, size ≠ 0 → f size = size) ∧
    new.size? disk = (old.size? disk).map f

theorem KeepsSize.refl (first : DiskGroupStatus) : KeepsSize disk first first :=
  ⟨rfl, id, fun _ _ => rfl, by simp⟩

theorem keepsSize_merge (found first : DiskGroupStatus) :
    KeepsSize disk first (DiskGroupStatus.merge found first) :=
  ⟨rfl, _, fun _ hsize => if_neg hsize, size?_merge found first disk⟩

theorem recordedSize_of_keepsSize (hkeeps : List.Forall₂ (KeepsSize disk) groups others)
    (h : recordedSize groups group disk ≠ 0) :
    recordedSize others group disk = recordedSize groups group disk := by
  induction hkeeps with
  | nil => rfl
  | @cons old new _ _ hfirst _ ih =>
      obtain ⟨hname, f, hf, hsize⟩ := hfirst
      rw [recordedSize_cons] at h
      rw [recordedSize_cons, recordedSize_cons, ← hname, hsize]
      by_cases heq : old.name = group
      · rw [if_pos heq] at h
        rw [if_pos heq, if_pos heq]
        cases hold : old.size? disk with
        | some size =>
            rw [hold] at h
            exact hf size h
        | none =>
            rw [hold] at h
            exact ih h
      · rw [if_neg heq] at h
        rw [if_neg heq, if_neg heq]
        exact ih h

theorem recordedSize_applyGroup_of_ne_zero (h : recordedSize groups group disk ≠ 0) :
    recordedSize (applyGroup groups found) group disk = recordedSize groups group disk := by
  rw [applyGroup_eq]
  split
  · have hkeeps : List.Forall₂ (KeepsSize disk) groups
        (modifyFirst (target groups found) (DiskGroupStatus.merge found) groups) :=
      forall₂_modifyFirst KeepsSize.refl fun first _ => keepsSize_merge found first
    exact recordedSize_of_keepsSize hkeeps h
  · exact recordedSize_append_of_ne_zero h

/-- A size that is not zero is recorded for good. -/
theorem recordedSize_applyDiscovered_of_ne_zero (h : recordedSize groups group disk ≠ 0) :
    recordedSize (applyDiscovered groups discovered) group disk =
      recordedSize groups group disk := by
  induction discovered generalizing groups with
  | nil => rfl
  | cons found discovered ih =>
      have hfound : recordedSize (applyGroup groups found) group disk =
          recordedSize groups group disk := recordedSize_applyGroup_of_ne_zero h
      rw [applyDiscovered_cons, ih (hfound.symm ▸ h), hfound]

end keeping

section agreeing

/-- The groups have one shape and give the disk one size, if they have the name. -/
structure SameSize (group disk : String) (first other : DiskGroupStatus) : Prop where
  shape : first.shape = other.shape
  size? : first.name = group → first.size? disk = other.size? disk

theorem SameSize.refl (first : DiskGroupStatus) : SameSize group disk first first :=
  ⟨rfl, fun _ => rfl⟩

theorem SameSize.merge {other : DiskGroupStatus} (h : SameSize group disk first other)
    (found : DiskGroupStatus) :
    SameSize group disk (DiskGroupStatus.merge found first)
      (DiskGroupStatus.merge found other) := by
  refine ⟨h.shape, fun hname => ?_⟩
  rw [size?_merge, size?_merge, h.size? hname]

theorem recordedSize_of_sameSize (h : List.Forall₂ (SameSize group disk) groups others) :
    recordedSize groups group disk = recordedSize others group disk := by
  induction h with
  | nil => rfl
  | @cons first other _ _ hfirst _ ih =>
      have hname : first.name = other.name := (Prod.mk.inj hfirst.shape).1
      rw [recordedSize_cons, recordedSize_cons, ← hname, ih]
      by_cases heq : first.name = group
      · rw [if_pos heq, if_pos heq, hfirst.size? heq]
      · rw [if_neg heq, if_neg heq]

/-- What is merged into groups that agree leaves them agreeing. -/
theorem sameSize_applyDiscovered (h : List.Forall₂ (SameSize group disk) groups others)
    (discovered : List DiskGroupStatus) :
    List.Forall₂ (SameSize group disk) (applyDiscovered groups discovered)
      (applyDiscovered others discovered) := by
  have halike : MergesAlike (SameSize group disk) :=
    ⟨fun hab => hab.shape, fun hab found => hab.merge found⟩
  obtain ⟨groups', others', added, hgroups, hothers, hagree, -⟩ :=
    halike.applyDiscovered h [] discovered
  rw [List.append_nil] at hgroups hothers
  rw [hgroups, hothers]
  exact List.rel_append hagree (List.forall₂_same.2 fun group _ => SameSize.refl group)

end agreeing

section listing

variable {spec : ClusterSpec} {previous previous' : List DiskGroupStatus} {names : List String}
  {disks : String → List String} {redundancy : String → String}

/-- What a listed group takes over of its disk. -/
theorem size?_listedGroup (hdisk : disk ∈ disks group) :
    (listedGroup spec previous group (disks group) (redundancy group)).size? disk =
      some (recordedSize previous group disk) := by
  have hfirst : (disks group).find? (· = disk) = some disk := by
    cases hfind : (disks group).find? (· = disk) with
    | none => exact absurd (decide_eq_true rfl) (List.find?_eq_none.1 hfind disk hdisk)
    | some name =>
        have hname : name = disk := key_of_find? hfind
        rw [hname]
  rw [DiskGroupStatus.size?, listedGroup, List.find?_map]
  simp only [Function.comp_def, hfirst, Option.map_some]

/-- Listed groups have recorded what they take over. -/
theorem recordedSize_listed (hname : group ∈ names) (hdisk : disk ∈ disks group) :
    recordedSize
        (names.map fun name => listedGroup spec previous name (disks name) (redundancy name))
        group disk =
      recordedSize previous group disk := by
  induction names with
  | nil => cases hname
  | cons name names ih =>
      have hlisted : (listedGroup spec previous name (disks name) (redundancy name)).name = name :=
        rfl
      rw [List.map_cons, recordedSize_cons, hlisted]
      by_cases heq : name = group
      · rw [if_pos heq, heq, size?_listedGroup hdisk]
        rfl
      · rw [if_neg heq]
        exact ih ((List.mem_cons.1 hname).resolve_left (Ne.symm heq))

/-- Listed groups agree about a disk if they take over the same of it. -/
theorem sameSize_listed (h : recordedSize previous group disk = recordedSize previous' group disk) :
    List.Forall₂ (SameSize group disk)
      (names.map fun name => listedGroup spec previous name (disks name) (redundancy name))
      (names.map fun name => listedGroup spec previous' name (disks name) (redundancy name)) := by
  rw [List.forall₂_map_left_iff, List.forall₂_map_right_iff, List.forall₂_same]
  refine fun name _ => ⟨rfl, fun hname => ?_⟩
  obtain rfl : name = group := hname
  by_cases hdisk : disk ∈ disks name
  · rw [size?_listedGroup hdisk, size?_listedGroup hdisk, h]
  · have hnone : ∀ previous,
        (listedGroup spec previous name (disks name) (redundancy name)).size? disk = none := by
      intro previous
      rw [DiskGroupStatus.size?, listedGroup, List.find?_eq_none.2, Option.map_none]
      intro member hmember hdiskname
      obtain ⟨listed, hlisted, rfl⟩ := List.mem_map.1 hmember
      exact hdisk (of_decide_eq_true hdiskname ▸ hlisted)
    rw [hnone, hnone]

/-- Groups that take over the same sizes are the same. -/
theorem listed_congr (h : ∀ name ∈ names, ∀ disk ∈ disks name,
      recordedSize previous name disk = recordedSize previous' name disk) :
    (names.map fun name => listedGroup spec previous name (disks name) (redundancy name)) =
      names.map fun name => listedGroup spec previous' name (disks name) (redundancy name) := by
  refine List.map_congr_left fun name hname => ?_
  have hdisks : ∀ disk ∈ disks name,
      DiskStatus.mk disk (recordedSize previous name disk) true =
        DiskStatus.mk disk (recordedSize previous' name disk) true := by
    intro disk hdisk
    rw [h name hname disk hdisk]
  rw [listedGroup, listedGroup, List.map_congr_left hdisks]

end listing

end Disks

end ClusterWatch
