import ClusterWatch.Proofs.Disks.Merging
import Mathlib.Data.List.Forall2

/-!
Which discovered groups a disk group is told of.

A discovered group is matched to a place: that of the first group of its name, or else that of the
first group that stands in for it. Without a place it is added. So in the end there are the groups
of the beginning and the added ones, each merged with what was matched to its place, in order. Main
statements: `getElem?_applyDiscovered` and `learns_mergeAll`.
-/

namespace ClusterWatch.Disks

/-- The place of the group that a discovered one is matched to: the first of its name, or else the
first that stands in for it. -/
def place? (groups : List DiskGroupStatus) (found : DiskGroupStatus) : Option Nat :=
  (groups.findIdx? (·.name = found.name)).or (groups.findIdx? (standsInFor found))

/-- The discovered groups that are matched to a place, in order. -/
def matchedTo (groups : List DiskGroupStatus) (place : Nat) :
    List DiskGroupStatus → List DiskGroupStatus
  | [] => []
  | found :: later =>
    let rest := matchedTo (applyGroup groups found) place later
    if place? groups found = some place then found :: rest else rest

/-- The discovered groups that are matched to no place, in order. -/
def addedTo (groups : List DiskGroupStatus) : List DiskGroupStatus → List DiskGroupStatus
  | [] => []
  | found :: later =>
    let rest := addedTo (applyGroup groups found) later
    if place? groups found = none then found :: rest else rest

section place

variable {groups others : List DiskGroupStatus} {found group : DiskGroupStatus} {place : Nat}

theorem place?_eq_findIdx? (groups : List DiskGroupStatus) (found : DiskGroupStatus) :
    place? groups found = groups.findIdx? (target groups found) := by
  by_cases hname : ∃ group ∈ groups, group.name = found.name
  · obtain ⟨place, hplace⟩ : ∃ place, groups.findIdx? (·.name = found.name) = some place := by
      rw [← Option.isSome_iff_exists, List.findIdx?_isSome, List.any_eq_true]
      simpa using hname
    rw [place?, target_of_mem hname, hplace, Option.some_or]
  · have hnone : ∀ group ∈ groups, group.name ≠ found.name :=
      fun group hgroup heq => hname ⟨group, hgroup, heq⟩
    have hplace : groups.findIdx? (·.name = found.name) = none := by
      simpa using hnone
    rw [place?, target_of_not_mem hnone, hplace, Option.none_or]

theorem place?_eq_none_iff : place? groups found = none ↔ IsNew groups found := by
  rw [place?, Option.or_eq_none_iff, List.findIdx?_eq_none_iff, List.findIdx?_eq_none_iff]
  constructor
  · exact fun h group hgroup => ⟨of_decide_eq_false (h.1 group hgroup), h.2 group hgroup⟩
  · exact fun h => ⟨fun group hgroup => decide_eq_false (h group hgroup).1,
      fun group hgroup => (h group hgroup).2⟩

/-- Where a discovered group belongs is a question of names and types. -/
theorem place?_congr (h : others.map (·.shape) = groups.map (·.shape)) (found : DiskGroupStatus) :
    place? others found = place? groups found := by
  have hshape : ∀ groups : List DiskGroupStatus, place? groups found =
      ((groups.map (·.shape)).findIdx? (·.1 = found.name)).or
        ((groups.map (·.shape)).findIdx? fun shape =>
          standsInFor found ⟨shape.1, shape.2, "", false, none, []⟩) := by
    intro groups
    rw [place?, List.findIdx?_map, List.findIdx?_map]
    rfl
  rw [hshape, hshape, h]

theorem lt_of_place? (h : place? groups found = some place) : place < groups.length := by
  rw [place?_eq_findIdx?] at h
  exact (List.findIdx?_eq_some_iff_getElem.1 h).1

theorem applyGroup_of_place? (h : place? groups found = some place) :
    applyGroup groups found = groups.modify place (DiskGroupStatus.merge found) := by
  rw [place?_eq_findIdx?] at h
  have hany : groups.any (target groups found) = true := by
    rw [← List.findIdx?_isSome, h]
    rfl
  rw [applyGroup_eq, if_pos hany, modifyFirst_eq_modify h]

/-- A discovered group that is matched changes no name and no type. -/
theorem map_shape_applyGroup (h : place? groups found = some place) :
    (applyGroup groups found).map (·.shape) = groups.map (·.shape) := by
  rcases map_outline_applyGroup groups found with hkept | ⟨hnew, -⟩
  · rw [map_shape_eq, hkept, ← map_shape_eq]
  · rw [place?_eq_none_iff.2 hnew] at h
    cases h

theorem applyGroup_of_place?_eq_none (h : place? groups found = none) :
    applyGroup groups found = groups ++ [found] := by
  rcases applyGroup_cases groups found with ⟨hknown, -⟩ | ⟨-, hvalue⟩
  · exact absurd (place?_eq_none_iff.1 h) hknown
  · exact hvalue

end place

/-- A group with what discovered groups say about its disks, one after the other. -/
def DiskGroupStatus.mergeAll (told : List DiskGroupStatus) (group : DiskGroupStatus) :
    DiskGroupStatus :=
  told.foldl (fun group found => DiskGroupStatus.merge found group) group

/-- A disk with what discovered groups say about it, one after the other. -/
def DiskStatus.mergeAll (told : List DiskGroupStatus) (disk : DiskStatus) : DiskStatus :=
  told.foldl (fun disk found => DiskStatus.merge found.disks disk) disk

section whole

variable {groups discovered told : List DiskGroupStatus} {group : DiskGroupStatus}

/-- In the end there are the groups of the beginning and the added ones, each with all that was
matched to its place. -/
theorem getElem?_applyDiscovered (groups discovered : List DiskGroupStatus) (place : Nat) :
    (applyDiscovered groups discovered)[place]? =
      (groups ++ addedTo groups discovered)[place]?.map
        (DiskGroupStatus.mergeAll (matchedTo groups place discovered)) := by
  induction discovered generalizing groups with
  | nil =>
      rw [addedTo, matchedTo, List.append_nil]
      exact Option.map_id'.symm
  | cons found later ih =>
      rw [applyDiscovered_cons, ih]
      cases hmatched : place? groups found with
      | none =>
          simp only [addedTo, matchedTo, hmatched, reduceCtorEq, ↓reduceIte]
          rw [applyGroup_of_place?_eq_none hmatched, List.append_assoc, List.singleton_append]
      | some first =>
          simp only [addedTo, matchedTo, hmatched, reduceCtorEq, ↓reduceIte, Option.some.injEq]
          rw [applyGroup_of_place? hmatched]
          by_cases hplace : first = place
          · have hlt := lt_of_place? hmatched
            subst hplace
            rw [if_pos rfl, List.getElem?_append_left (by simpa using hlt),
              List.getElem?_append_left hlt, List.getElem?_modify_eq, Option.map_eq_map,
              Option.map_map]
            rfl
          · rw [if_neg hplace, List.getElem?_append, List.getElem?_append, List.length_modify,
              List.getElem?_modify_ne _ _ hplace]

theorem outline_mergeAll (told : List DiskGroupStatus) (group : DiskGroupStatus) :
    (DiskGroupStatus.mergeAll told group).outline = group.outline := by
  induction told generalizing group with
  | nil => rfl
  | cons found told ih => exact (ih _).trans outline_merge

theorem mergeAll_eq (told : List DiskGroupStatus) (group : DiskGroupStatus) :
    DiskGroupStatus.mergeAll told group =
      { group with disks := group.disks.map (DiskStatus.mergeAll told) } := by
  induction told generalizing group with
  | nil =>
      have hdisks : group.disks.map (DiskStatus.mergeAll []) = group.disks := List.map_id' _
      rw [hdisks]
      rfl
  | cons found told ih =>
      have hmerge : DiskGroupStatus.mergeAll (found :: told) group =
          DiskGroupStatus.mergeAll told (DiskGroupStatus.merge found group) := rfl
      rw [hmerge, ih, DiskGroupStatus.merge, List.map_map]
      rfl

/-- All groups keep their outlines, and the added ones have those of discovered groups. -/
theorem map_outline_applyDiscovered_eq (groups discovered : List DiskGroupStatus) :
    (applyDiscovered groups discovered).map (·.outline) =
      (groups ++ addedTo groups discovered).map (·.outline) := by
  apply List.ext_getElem?
  intro place
  rw [List.getElem?_map, List.getElem?_map, getElem?_applyDiscovered, Option.map_map]
  simp only [Function.comp_def, outline_mergeAll]

theorem map_shape_applyDiscovered_eq (groups discovered : List DiskGroupStatus) :
    (applyDiscovered groups discovered).map (·.shape) =
      (groups ++ addedTo groups discovered).map (·.shape) := by
  rw [map_shape_eq, map_outline_applyDiscovered_eq, ← map_shape_eq]

end whole

/-- What discovered groups report of a disk, at most one entry from each. -/
def reportsOf (told : List DiskGroupStatus) (disk : String) : List DiskStatus :=
  told.filterMap fun found => found.disks.find? (·.name = disk)

/-- What becomes of a disk through reports of it, in order: it keeps a size that it has, and else
takes one of those reported, and it is as valid as the last report says. -/
structure Learns (reports : List DiskStatus) (old new : DiskStatus) : Prop where
  name : new.name = old.name
  recorded : old.sizeGb ≠ 0 → new.sizeGb = old.sizeGb
  unrecorded : old.sizeGb = 0 →
    (new.sizeGb = 0 ∧ ∀ report ∈ reports, report.sizeGb = 0) ∨
      ∃ report ∈ reports, report.sizeGb ≠ 0 ∧ new.sizeGb = report.sizeGb
  unreported : reports = [] → new.valid = old.valid
  reported : ∀ report, reports.getLast? = some report → new.valid = report.valid

namespace Learns

variable {reports : List DiskStatus} {old new again report : DiskStatus}

theorem refl (disk : DiskStatus) : Learns [] disk disk where
  name := rfl
  recorded _ := rfl
  unrecorded h := Or.inl ⟨h, nofun⟩
  unreported _ := rfl
  reported _ h := nomatch h

/-- One report comes first. -/
theorem cons (h : Learns reports
      { old with
        sizeGb := if old.sizeGb = 0 then report.sizeGb else old.sizeGb
        valid := report.valid } new) : Learns (report :: reports) old new where
  name := h.name
  recorded hsize := by
    have hkept := h.recorded
    simp only [if_neg hsize] at hkept
    exact hkept hsize
  unrecorded hsize := by
    have hkept := h.recorded
    have htaken := h.unrecorded
    simp only [if_pos hsize] at hkept htaken
    by_cases hreport : report.sizeGb = 0
    · rcases htaken hreport with ⟨hzero, hall⟩ | ⟨other, hother, hne, heq⟩
      · exact Or.inl ⟨hzero, List.forall_mem_cons.2 ⟨hreport, hall⟩⟩
      · exact Or.inr ⟨other, List.mem_cons_of_mem report hother, hne, heq⟩
    · exact Or.inr ⟨report, List.mem_cons_self, hreport, hkept hreport⟩
  unreported hnone := nomatch hnone
  reported last hlast := by
    rw [List.getLast?_cons] at hlast
    cases hrest : reports.getLast? with
    | none =>
        rw [hrest] at hlast
        obtain rfl := Option.some.inj hlast
        exact h.unreported (List.getLast?_eq_none_iff.1 hrest)
    | some other =>
        rw [hrest] at hlast
        obtain rfl := Option.some.inj hlast
        exact h.reported other hrest

end Learns

/-- A disk learns what the discovered groups report of it. -/
theorem learns_mergeAll (told : List DiskGroupStatus) (disk : DiskStatus) :
    Learns (reportsOf told disk.name) disk (DiskStatus.mergeAll told disk) := by
  induction told generalizing disk with
  | nil => exact Learns.refl disk
  | cons found told ih =>
      have hrest := ih (DiskStatus.merge found.disks disk)
      rw [name_diskMerge] at hrest
      rw [reportsOf, List.filterMap_cons]
      have hmerge : DiskStatus.mergeAll (found :: told) disk =
          DiskStatus.mergeAll told (DiskStatus.merge found.disks disk) := rfl
      rw [hmerge]
      cases hreport : found.disks.find? (·.name = disk.name) with
      | none =>
          rw [DiskStatus.merge, hreport] at hrest ⊢
          exact hrest
      | some report =>
          rw [DiskStatus.merge, hreport] at hrest ⊢
          exact hrest.cons

end ClusterWatch.Disks
