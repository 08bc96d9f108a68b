import ClusterWatch.Disks.Groups
import ClusterWatch.Proofs.Pointwise

/-!
Disk groups through the merging of discovered ones.

Merging a discovered group changes one group in its place, or adds the discovered one at the end. A
group keeps its name, its type and its disks, and a size that is not zero; so what every merging
keeps and every added group has, all groups have in the end.
-/

namespace ClusterWatch

namespace DiskGroupStatus

/-- The group has a disk of the name. -/
def Lists (group : DiskGroupStatus) (disk : String) : Prop :=
  disk ∈ group.disks.map (·.name)

/-- The disks of the name in the group, if there are any, have the size. -/
def SizeIs (group : DiskGroupStatus) (disk : String) (size : UInt64) : Prop :=
  ∀ member ∈ group.disks, member.name = disk → member.sizeGb = size

/-- What merging looks at in a group. -/
def shape (group : DiskGroupStatus) : String × Option DiskGroupType :=
  (group.name, group.type)

/-- A group without the sizes and the validity of its disks. -/
structure Outline where
  name : String
  type : Option DiskGroupType
  redundancy : String
  autoUpdate : Bool
  storageClass : Option String
  disks : List String

/-- What merging does not change in a group. -/
def outline (group : DiskGroupStatus) : Outline where
  name := group.name
  type := group.type
  redundancy := group.redundancy
  autoUpdate := group.autoUpdate
  storageClass := group.storageClass
  disks := group.disks.map (·.name)

end DiskGroupStatus

namespace Disks

section members

variable {found group : DiskGroupStatus} {disk : String}

theorem name_diskMerge (reports : List DiskStatus) (member : DiskStatus) :
    (DiskStatus.merge reports member).name = member.name := by
  rw [DiskStatus.merge]
  split <;> rfl

theorem sizeGb_diskMerge_of_ne_zero (reports : List DiskStatus) {member : DiskStatus}
    (h : member.sizeGb ≠ 0) : (DiskStatus.merge reports member).sizeGb = member.sizeGb := by
  rw [DiskStatus.merge]
  split
  · exact if_neg h
  · rfl

@[simp]
theorem shape_merge : (DiskGroupStatus.merge found group).shape = group.shape :=
  rfl

theorem map_name_merge (found group : DiskGroupStatus) :
    (DiskGroupStatus.merge found group).disks.map (·.name) = group.disks.map (·.name) := by
  simp [DiskGroupStatus.merge, Function.comp_def, name_diskMerge]

@[simp]
theorem lists_merge : (DiskGroupStatus.merge found group).Lists disk ↔ group.Lists disk := by
  simp only [ClusterWatch.DiskGroupStatus.Lists, map_name_merge]

@[simp]
theorem outline_merge : (DiskGroupStatus.merge found group).outline = group.outline := by
  simp only [ClusterWatch.DiskGroupStatus.outline, map_name_merge]
  rfl

theorem sizeIs_merge_iff {size : UInt64} :
    (DiskGroupStatus.merge found group).SizeIs disk size ↔
      ∀ member ∈ group.disks, member.name = disk →
        (DiskStatus.merge found.disks member).sizeGb = size := by
  simp only [ClusterWatch.DiskGroupStatus.SizeIs, DiskGroupStatus.merge, List.forall_mem_map,
    name_diskMerge]

end members

end Disks

namespace DiskGroupStatus.SizeIs

open Disks

variable {found group : DiskGroupStatus} {disk : String} {size other : UInt64}

theorem merge_of_ne_zero (h : group.SizeIs disk size) (hsize : size ≠ 0) :
    (Disks.DiskGroupStatus.merge found group).SizeIs disk size := by
  rw [sizeIs_merge_iff]
  intro member hmember hname
  have heq := h member hmember hname
  rw [sizeGb_diskMerge_of_ne_zero _ (heq ▸ hsize), heq]

/-- A discovered group without the disk says nothing about its size. -/
theorem merge_of_not_lists (h : group.SizeIs disk size) (hfound : ¬found.Lists disk) :
    (Disks.DiskGroupStatus.merge found group).SizeIs disk size := by
  rw [sizeIs_merge_iff]
  intro member hmember hname
  have hnone : found.disks.find? (·.name = member.name) = none := by
    rw [List.find?_eq_none]
    intro report hreport hreported
    exact hfound (List.mem_map.2 ⟨report, hreport, (of_decide_eq_true hreported).trans hname⟩)
  rw [DiskStatus.merge, hnone]
  exact h member hmember hname

/-- A disk without a size takes it from the discovered group. -/
theorem merge_of_zero (h : group.SizeIs disk 0) (hfound : found.SizeIs disk size)
    (hlists : found.Lists disk) : (Disks.DiskGroupStatus.merge found group).SizeIs disk size := by
  rw [sizeIs_merge_iff]
  intro member hmember hname
  obtain ⟨report, hreport⟩ : ∃ report, found.disks.find? (·.name = member.name) = some report := by
    obtain ⟨reported, hreported, heq⟩ := List.mem_map.1 hlists
    rw [← Option.isSome_iff_exists, List.find?_isSome]
    exact ⟨reported, hreported, decide_eq_true (heq.trans hname.symm)⟩
  have hreported : report.name = disk := (key_of_find? hreport).trans hname
  rw [DiskStatus.merge, hreport]
  simp only [h member hmember hname, ↓reduceIte]
  exact hfound report (List.mem_of_find?_eq_some hreport) hreported

/-- A size that the discovered group tells as well stays. -/
theorem merge (h : group.SizeIs disk size) (hfound : found.SizeIs disk size) :
    (Disks.DiskGroupStatus.merge found group).SizeIs disk size := by
  by_cases hlists : found.Lists disk
  · by_cases hsize : size = 0
    · exact merge_of_zero (hsize ▸ h) hfound hlists
    · exact h.merge_of_ne_zero hsize
  · exact h.merge_of_not_lists hlists

theorem of_not_lists (h : ¬group.Lists disk) : group.SizeIs disk size := by
  intro member hmember hname
  exact absurd (List.mem_map.2 ⟨member, hmember, hname⟩) h

theorem unique (h : group.SizeIs disk size) (hother : group.SizeIs disk other)
    (hlists : group.Lists disk) : size = other := by
  obtain ⟨member, hmember, hname⟩ := List.mem_map.1 hlists
  exact (h member hmember hname).symm.trans (hother member hmember hname)

end DiskGroupStatus.SizeIs

namespace Disks

/-- None of the groups has the discovered one's name or stands in for it. -/
def IsNew (groups : List DiskGroupStatus) (found : DiskGroupStatus) : Prop :=
  ∀ group ∈ groups, group.name ≠ found.name ∧ standsInFor found group = false

/-- The test that finds the group that a discovered one is merged into. -/
def target (groups : List DiskGroupStatus) (found : DiskGroupStatus) : DiskGroupStatus → Bool :=
  if groups.any (·.name = found.name) then (·.name = found.name) else standsInFor found

section applyGroup

variable {groups : List DiskGroupStatus} {found group : DiskGroupStatus}

theorem target_of_mem (h : ∃ group ∈ groups, group.name = found.name) :
    target groups found = fun group => decide (group.name = found.name) := by
  rw [target, if_pos]
  simpa using h

theorem target_of_not_mem (h : ∀ group ∈ groups, group.name ≠ found.name) :
    target groups found = standsInFor found := by
  rw [target, if_neg]
  simpa using h

theorem standsInFor_eq_of_shape {other : DiskGroupStatus} (h : other.shape = group.shape) :
    standsInFor found other = standsInFor found group := by
  obtain ⟨hname, htype⟩ := Prod.mk.inj h
  rw [standsInFor, standsInFor, hname, htype]

/-- Which group a discovered one is merged into is a question of names and types. -/
theorem target_congr {others : List DiskGroupStatus}
    (h : others.map (·.shape) = groups.map (·.shape)) (found : DiskGroupStatus) :
    target others found = target groups found := by
  have hany : others.any (·.name = found.name) = groups.any (·.name = found.name) := by
    have hshapes := congrArg (·.any (·.1 = found.name)) h
    simpa [List.any_map, Function.comp_def, DiskGroupStatus.shape] using hshapes
  rw [target, target, hany]

theorem target_eq_of_shape {other : DiskGroupStatus} (h : other.shape = group.shape) :
    target groups found other = target groups found group := by
  rw [target]
  split
  · have hname : other.name = group.name := (Prod.mk.inj h).1
    simp only [hname]
  · exact standsInFor_eq_of_shape h

theorem applyGroup_eq (groups : List DiskGroupStatus) (found : DiskGroupStatus) :
    applyGroup groups found =
      if groups.any (target groups found) then
        modifyFirst (target groups found) (DiskGroupStatus.merge found) groups
      else groups ++ [found] := by
  rw [applyGroup, target]
  by_cases hany : groups.any (·.name = found.name) = true
  · simp only [if_pos hany]
  · simp only [if_neg hany]

/-- A group in front that the test finds changes in its place, and else only what is behind does. -/
theorem applyGroup_append (front back : List DiskGroupStatus) (found : DiskGroupStatus) :
    applyGroup (front ++ back) found =
      let test := target (front ++ back) found
      if front.any test then modifyFirst test (DiskGroupStatus.merge found) front ++ back
      else front ++ if back.any test then modifyFirst test (DiskGroupStatus.merge found) back
        else back ++ [found] := by
  rw [applyGroup_eq, List.any_append]
  generalize target (front ++ back) found = test
  simp only
  by_cases hfront : front.any test = true
  · rw [hfront, Bool.true_or, if_pos rfl, if_pos rfl]
    exact modifyFirst_append_of_exists (List.any_eq_true.1 hfront) _ _
  · have hnone : ∀ group ∈ front, test group = false := by
      simpa using hfront
    rw [if_neg hfront, Bool.eq_false_iff.2 hfront, Bool.false_or,
      modifyFirst_append_of_all_not hnone, List.append_assoc]
    split <;> rfl

/-- A discovered group changes the first group that the test finds, or is added. -/
theorem applyGroup_cases (groups : List DiskGroupStatus) (found : DiskGroupStatus) :
    (¬IsNew groups found ∧ applyGroup groups found =
        modifyFirst (target groups found) (DiskGroupStatus.merge found) groups) ∨
      (IsNew groups found ∧ applyGroup groups found = groups ++ [found]) := by
  by_cases hname : ∃ group ∈ groups, group.name = found.name
  · have hany : groups.any (·.name = found.name) = true := by
      simpa using hname
    refine Or.inl ⟨fun hnew => ?_, by rw [applyGroup, if_pos hany, target, if_pos hany]⟩
    obtain ⟨group, hgroup, heq⟩ := hname
    exact (hnew group hgroup).1 heq
  · have hnone : ∀ group ∈ groups, group.name ≠ found.name :=
      fun group hgroup heq => hname ⟨group, hgroup, heq⟩
    have hany : ¬groups.any (·.name = found.name) = true := by
      simpa using hnone
    rw [applyGroup, if_neg hany, target_of_not_mem hnone]
    by_cases hstands : groups.any (standsInFor found) = true
    · refine Or.inl ⟨fun hnew => ?_, if_pos hstands⟩
      obtain ⟨group, hgroup, htrue⟩ := List.any_eq_true.1 hstands
      rw [(hnew group hgroup).2] at htrue
      cases htrue
    · refine Or.inr ⟨fun group hgroup => ⟨hnone group hgroup, ?_⟩, if_neg hstands⟩
      simp only [List.any_eq_true, not_exists, not_and] at hstands
      exact Bool.eq_false_iff.2 (hstands group hgroup)

/-- Where a group comes from after a discovered one was merged or added. -/
theorem mem_applyGroup (h : group ∈ applyGroup groups found) :
    group ∈ groups ∨ (∃ old ∈ groups, group = DiskGroupStatus.merge found old) ∨
      (group = found ∧ IsNew groups found) := by
  rcases applyGroup_cases groups found with ⟨-, hvalue⟩ | ⟨hnew, hvalue⟩
  · rw [hvalue] at h
    rcases mem_modifyFirst h with h | h
    · exact Or.inl h
    · obtain ⟨old, hold, rfl⟩ := Option.map_eq_some_iff.1 h
      exact Or.inr (Or.inl ⟨old, List.mem_of_find?_eq_some hold, rfl⟩)
  · rw [hvalue] at h
    rcases List.mem_append.1 h with h | h
    · exact Or.inl h
    · exact Or.inr (Or.inr ⟨List.mem_singleton.1 h, hnew⟩)

theorem exists_mem_applyGroup (h : group ∈ groups) (found : DiskGroupStatus) :
    group ∈ applyGroup groups found ∨
      DiskGroupStatus.merge found group ∈ applyGroup groups found := by
  rcases applyGroup_cases groups found with ⟨-, hvalue⟩ | ⟨-, hvalue⟩
  · rw [hvalue]
    exact mem_modifyFirst_of_mem h
  · rw [hvalue]
    exact Or.inl (List.mem_append_left _ h)

/-- No group changes its outline; a discovered group may be added, if it is new. -/
theorem map_outline_applyGroup (groups : List DiskGroupStatus) (found : DiskGroupStatus) :
    (applyGroup groups found).map (·.outline) = groups.map (·.outline) ∨
      (IsNew groups found ∧
        (applyGroup groups found).map (·.outline) =
          groups.map (·.outline) ++ [found.outline]) := by
  rcases applyGroup_cases groups found with ⟨-, hvalue⟩ | ⟨hnew, hvalue⟩
  · rw [hvalue]
    exact Or.inl (map_modifyFirst (fun _ _ => outline_merge) groups)
  · rw [hvalue, List.map_append]
    exact Or.inr ⟨hnew, rfl⟩

theorem map_name_eq (groups : List DiskGroupStatus) :
    groups.map (·.name) = (groups.map (·.outline)).map (·.name) := by
  rw [List.map_map]
  rfl

theorem map_shape_eq (groups : List DiskGroupStatus) :
    groups.map (·.shape) =
      (groups.map (·.outline)).map fun outline => (outline.name, outline.type) := by
  rw [List.map_map]
  rfl

theorem nodup_applyGroup_iff : ((applyGroup groups found).map (·.name)).Nodup ↔
    (groups.map (·.name)).Nodup := by
  rcases map_outline_applyGroup groups found with hkept | ⟨hnew, hadded⟩
  · rw [map_name_eq, hkept, ← map_name_eq]
  · have hfresh : found.name ∉ groups.map (·.name) := by
      intro hmem
      obtain ⟨group, hgroup, heq⟩ := List.mem_map.1 hmem
      exact (hnew group hgroup).1 heq
    rw [map_name_eq, hadded, List.map_append, ← map_name_eq, List.map_singleton,
      List.nodup_append]
    constructor
    · exact fun h => h.1
    · intro h
      refine ⟨h, List.nodup_cons.2 ⟨List.not_mem_nil, List.nodup_nil⟩, ?_⟩
      rintro name hname other hother rfl
      have heq : name = found.name := List.mem_singleton.1 hother
      exact hfresh (heq ▸ hname)

end applyGroup

section applyDiscovered

variable {groups discovered : List DiskGroupStatus} {P : DiskGroupStatus → Prop}

theorem applyDiscovered_cons (found : DiskGroupStatus) :
    applyDiscovered groups (found :: discovered) =
      applyDiscovered (applyGroup groups found) discovered :=
  rfl

theorem applyDiscovered_concat (found : DiskGroupStatus) :
    applyDiscovered groups (discovered ++ [found]) =
      applyGroup (applyDiscovered groups discovered) found := by
  rw [applyDiscovered, List.foldl_append]
  rfl

theorem applyDiscovered_of_isNew {sooner later : List DiskGroupStatus} {found : DiskGroupStatus}
    (h : IsNew (applyDiscovered groups sooner) found) :
    applyDiscovered groups (sooner ++ found :: later) =
      applyDiscovered (applyDiscovered groups sooner ++ [found]) later := by
  rcases applyGroup_cases (applyDiscovered groups sooner) found with ⟨hnot, -⟩ | ⟨-, hvalue⟩
  · exact absurd h hnot
  · rw [← hvalue, applyDiscovered, List.foldl_append, List.foldl_cons]
    rfl

/-- What every merging keeps and every added group has, all groups have. -/
theorem forall_mem_applyDiscovered (hgroups : ∀ group ∈ groups, P group)
    (hmerge : ∀ found ∈ discovered, ∀ group, P group → P (DiskGroupStatus.merge found group))
    (hnew : ∀ sooner found later, discovered = sooner ++ found :: later →
      IsNew (applyDiscovered groups sooner) found → P found) :
    ∀ group ∈ applyDiscovered groups discovered, P group := by
  induction discovered generalizing groups with
  | nil => exact hgroups
  | cons found discovered ih =>
      rw [applyDiscovered_cons]
      apply ih
      · intro group hgroup
        rcases mem_applyGroup hgroup with hold | ⟨old, hold, rfl⟩ | ⟨rfl, hisNew⟩
        · exact hgroups group hold
        · exact hmerge found List.mem_cons_self old (hgroups old hold)
        · exact hnew [] group discovered rfl hisNew
      · intro later hlater
        exact hmerge later (List.mem_cons_of_mem found hlater)
      · intro sooner next later heq
        exact hnew (found :: sooner) next later (by rw [heq, List.cons_append])

/-- What every merging keeps of a group, some group has in the end. -/
theorem exists_mem_applyDiscovered {group : DiskGroupStatus} (hgroup : group ∈ groups)
    (h : P group)
    (hmerge : ∀ found ∈ discovered, ∀ group, P group → P (DiskGroupStatus.merge found group)) :
    ∃ last ∈ applyDiscovered groups discovered, P last := by
  induction discovered generalizing groups group with
  | nil => exact ⟨group, hgroup, h⟩
  | cons found discovered ih =>
      have hrest : ∀ later ∈ discovered, ∀ group, P group →
          P (DiskGroupStatus.merge later group) :=
        fun later hlater => hmerge later (List.mem_cons_of_mem found hlater)
      rw [applyDiscovered_cons]
      rcases exists_mem_applyGroup hgroup found with hmem | hmem
      · exact ih hmem h hrest
      · exact ih hmem (hmerge found List.mem_cons_self group h) hrest

theorem nodup_applyDiscovered_iff (groups discovered : List DiskGroupStatus) :
    ((applyDiscovered groups discovered).map (·.name)).Nodup ↔ (groups.map (·.name)).Nodup := by
  induction discovered generalizing groups with
  | nil => exact Iff.rfl
  | cons found discovered ih => exact (ih (applyGroup groups found)).trans nodup_applyGroup_iff

/-- All groups keep their outlines, and what is added has those of discovered groups with names that
no group had. -/
theorem map_outline_applyDiscovered (groups discovered : List DiskGroupStatus) :
    ∃ added : List DiskGroupStatus, added.Sublist discovered ∧
      (∀ found ∈ added, ∀ group ∈ groups, group.name ≠ found.name) ∧
      (applyDiscovered groups discovered).map (·.outline) =
        groups.map (·.outline) ++ added.map (·.outline) := by
  induction discovered generalizing groups with
  | nil => exact ⟨[], List.Sublist.slnil, nofun, (List.append_nil _).symm⟩
  | cons found discovered ih =>
      obtain ⟨added, hadded, hfresh, houtlines⟩ := ih (applyGroup groups found)
      have hsooner : ∀ later ∈ added, ∀ group ∈ groups, group.name ≠ later.name := by
        intro later hlater group hgroup
        rcases exists_mem_applyGroup hgroup found with hmem | hmem
        · exact hfresh later hlater group hmem
        · exact hfresh later hlater (DiskGroupStatus.merge found group) hmem
      rw [applyDiscovered_cons]
      rcases map_outline_applyGroup groups found with hkept | ⟨hnew, hvalue⟩
      · exact ⟨added, hadded.cons found, hsooner, by rw [houtlines, hkept]⟩
      · refine ⟨found :: added, hadded.cons_cons found, ?_, ?_⟩
        · rw [List.forall_mem_cons]
          exact ⟨fun group hgroup => (hnew group hgroup).1, hsooner⟩
        · rw [houtlines, hvalue, List.append_assoc]
          rfl

/-- All groups keep their shapes, and what is added has those of discovered groups. -/
theorem map_shape_applyDiscovered (groups discovered : List DiskGroupStatus) :
    ∃ added : List DiskGroupStatus, added.Sublist discovered ∧
      (applyDiscovered groups discovered).map (·.shape) =
        groups.map (·.shape) ++ added.map (·.shape) := by
  obtain ⟨added, hadded, -, houtlines⟩ := map_outline_applyDiscovered groups discovered
  refine ⟨added, hadded, ?_⟩
  rw [map_shape_eq, houtlines, List.map_append, ← map_shape_eq, ← map_shape_eq]

end applyDiscovered

section alike

/-- Related groups have one shape, and stay related when one group is merged into both. -/
structure MergesAlike (R : DiskGroupStatus → DiskGroupStatus → Prop) : Prop where
  shape : ∀ {group other}, R group other → group.shape = other.shape
  merge : ∀ {group other}, R group other → ∀ found,
    R (DiskGroupStatus.merge found group) (DiskGroupStatus.merge found other)

namespace MergesAlike

variable {R : DiskGroupStatus → DiskGroupStatus → Prop} {groups others : List DiskGroupStatus}

/-- Into related groups a discovered one is merged in the same place, and what is behind them
becomes the same. -/
theorem applyGroup (hR : MergesAlike R) (h : List.Forall₂ R groups others)
    (back : List DiskGroupStatus) (found : DiskGroupStatus) :
    ∃ groups' others' back', Disks.applyGroup (groups ++ back) found = groups' ++ back' ∧
      Disks.applyGroup (others ++ back) found = others' ++ back' ∧
      List.Forall₂ R groups' others' ∧ groups'.map (·.name) = groups.map (·.name) := by
  have hshapes : (others ++ back).map (·.shape) = (groups ++ back).map (·.shape) := by
    rw [List.map_append, List.map_append, map_eq_of_forall₂ h fun _ _ hab => hR.shape hab]
  rw [applyGroup_append, applyGroup_append, target_congr hshapes]
  have htest : ∀ group other, R group other →
      target (groups ++ back) found group = target (groups ++ back) found other :=
    fun _ _ hab => target_eq_of_shape (hR.shape hab)
  generalize target (groups ++ back) found = test at htest
  have hany : groups.any test = others.any test := by
    rw [Bool.eq_iff_iff, List.any_eq_true, List.any_eq_true]
    apply exists_mem_iff_of_forall₂ h
    intro group other hab
    rw [htest group other hab]
  simp only [← hany]
  by_cases hfront : groups.any test = true
  · rw [if_pos hfront, if_pos hfront]
    have hmerged := forall₂_modifyFirst_modifyFirst h htest fun _ _ hab => hR.merge hab found
    have hnames : (modifyFirst test (DiskGroupStatus.merge found) groups).map (·.name) =
        groups.map (·.name) := by
      apply map_modifyFirst
      intro group _
      rfl
    exact ⟨_, _, back, rfl, rfl, hmerged, hnames⟩
  · rw [if_neg hfront, if_neg hfront]
    exact ⟨groups, others, _, rfl, rfl, h, rfl⟩

theorem applyDiscovered (hR : MergesAlike R) (h : List.Forall₂ R groups others)
    (back discovered : List DiskGroupStatus) :
    ∃ groups' others' back', Disks.applyDiscovered (groups ++ back) discovered = groups' ++ back' ∧
      Disks.applyDiscovered (others ++ back) discovered = others' ++ back' ∧
      List.Forall₂ R groups' others' ∧ groups'.map (·.name) = groups.map (·.name) := by
  induction discovered generalizing groups others back with
  | nil => exact ⟨groups, others, back, rfl, rfl, h, rfl⟩
  | cons found discovered ih =>
      obtain ⟨groups', others', back', hgroups, hothers, hrelated, hnames⟩ :=
        hR.applyGroup h back found
      rw [applyDiscovered_cons, applyDiscovered_cons, hgroups, hothers, ← hnames]
      exact ih hrelated back'

end MergesAlike

end alike

end Disks

end ClusterWatch
