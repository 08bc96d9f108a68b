import ClusterWatch.Proofs.Disks.Merging
import Mathlib.Data.List.Induction

/-!
One disk group in its place, followed through the merging of discovered ones.

Which discovered groups are merged into it depends on names and types, which do not change. So it
can be told at the beginning which of them reach it, and with that what size its disk has in the
end. Main statement: `exists_follows`.
-/

namespace ClusterWatch.Disks

variable {front back discovered : List DiskGroupStatus} {group found : DiskGroupStatus}
  {P : DiskGroupStatus → Prop} {disk : String} {size : UInt64}

/-- A discovered group reaches a group in its place: it has its name, and no group in front has; or
the group stands in for it, and no group has its name. -/
def Reaches (front : List DiskGroupStatus) (group : DiskGroupStatus) (back : List DiskGroupStatus)
    (found : DiskGroupStatus) : Prop :=
  (found.name = group.name ∧ ∀ other ∈ front, other.name ≠ found.name) ∨
    (standsInFor found group = true ∧ ∀ other ∈ front ++ group :: back, other.name ≠ found.name)

/-- The group in its place is the first that the test finds. -/
def IsTarget (front : List DiskGroupStatus) (group : DiskGroupStatus)
    (back : List DiskGroupStatus) (found : DiskGroupStatus) : Prop :=
  (∀ other ∈ front, target (front ++ group :: back) found other = false) ∧
    target (front ++ group :: back) found group = true

theorem type_eq_of_standsInFor (h : standsInFor found group = true) : group.type = found.type := by
  rw [standsInFor] at h
  split at h
  · next type htype => simp_all
  · cases h

/-- The first that the test finds is the one that is reached, if no group in front has its type. -/
theorem isTarget_iff (htypes : ∀ other ∈ front, other.type ≠ group.type) :
    IsTarget front group back found ↔ Reaches front group back found := by
  rw [IsTarget, Reaches]
  by_cases hname : ∃ other ∈ front ++ group :: back, other.name = found.name
  · have hnone : ¬∀ other ∈ front ++ group :: back, other.name ≠ found.name := by
      obtain ⟨other, hother, heq⟩ := hname
      exact fun hall => hall other hother heq
    rw [target_of_mem hname]
    simp only [decide_eq_false_iff_not, decide_eq_true_eq, hnone, and_false, or_false]
    rw [and_comm, eq_comm]
  · have hnone : ∀ other ∈ front ++ group :: back, other.name ≠ found.name :=
      fun other hother heq => hname ⟨other, hother, heq⟩
    have hgroup := hnone group (List.mem_append_right front List.mem_cons_self)
    rw [target_of_not_mem hnone]
    constructor
    · exact fun h => Or.inr ⟨h.2, hnone⟩
    · rintro (⟨heq, -⟩ | ⟨hstands, -⟩)
      · exact absurd heq.symm hgroup
      · refine ⟨fun other hother => ?_, hstands⟩
        rw [Bool.eq_false_iff]
        intro hother'
        apply htypes other hother
        rw [type_eq_of_standsInFor hother', type_eq_of_standsInFor hstands]

/-- One group in its place while a discovered one is merged or added. -/
theorem applyGroup_append_cons_cases (front : List DiskGroupStatus) (group : DiskGroupStatus)
    (back : List DiskGroupStatus) (found : DiskGroupStatus) :
    (IsTarget front group back found ∧
        applyGroup (front ++ group :: back) found =
          front ++ DiskGroupStatus.merge found group :: back) ∨
      (¬IsTarget front group back found ∧
        ∃ front' back', applyGroup (front ++ group :: back) found = front' ++ group :: back' ∧
          front'.length = front.length ∧
          ∀ other ∈ front' ++ back', other ∈ front ++ back ∨
            (∃ old ∈ front ++ back, other = DiskGroupStatus.merge found old) ∨
            (other = found ∧ IsNew (front ++ group :: back) found)) := by
  rcases applyGroup_cases (front ++ group :: back) found with ⟨-, hvalue⟩ | ⟨hnew, hvalue⟩
  · rw [hvalue]
    refine (modifyFirst_append_cons_cases _ _ front group back).imp id ?_
    rintro ⟨hnot, front', back', heq, hlength, hmem⟩
    refine ⟨hnot, front', back', heq, hlength, fun other hother => ?_⟩
    exact (hmem other hother).imp id Or.inl
  · refine Or.inr ⟨fun htarget => ?_, front, back ++ [found], by simp [hvalue], rfl, ?_⟩
    · have hgroup := hnew group (List.mem_append_right front List.mem_cons_self)
      have hnone := fun other hother => (hnew other hother).1
      have htrue := htarget.2
      rw [target_of_not_mem hnone, hgroup.2] at htrue
      cases htrue
    · intro other hother
      rw [← List.append_assoc] at hother
      rcases List.mem_append.1 hother with hold | hadded
      · exact Or.inl hold
      · exact Or.inr (Or.inr ⟨List.mem_singleton.1 hadded, hnew⟩)

theorem forall_name_ne_iff {groups : List DiskGroupStatus} {name : String} :
    (∀ other ∈ groups, other.name ≠ name) ↔ name ∉ (groups.map (·.shape)).map (·.1) := by
  simp [ClusterWatch.DiskGroupStatus.shape]

/-- What a discovered group reaches depends on shapes alone, and not on added groups of other
names. -/
theorem reaches_congr {front' back' added : List DiskGroupStatus} {group' : DiskGroupStatus}
    (hfront : front'.map (·.shape) = front.map (·.shape)) (hgroup : group'.shape = group.shape)
    (hback : back'.map (·.shape) = back.map (·.shape) ++ added.map (·.shape))
    (hadded : ∀ other ∈ added, other.name ≠ found.name) :
    Reaches front' group' back' found ↔ Reaches front group back found := by
  have hname : group'.name = group.name := (Prod.mk.inj hgroup).1
  rw [forall_name_ne_iff] at hadded
  rw [Reaches, Reaches, standsInFor_eq_of_shape hgroup, hname]
  simp only [forall_name_ne_iff]
  simp only [List.map_append, List.map_cons, List.mem_append, List.mem_cons, hfront, hback, hgroup,
    hadded, or_false]

/-- A discovered group that has the disk reaches the group. -/
def IsTold (front : List DiskGroupStatus) (group : DiskGroupStatus) (back : List DiskGroupStatus)
    (disk : String) (discovered : List DiskGroupStatus) : Prop :=
  ∃ found ∈ discovered, Reaches front group back found ∧ found.Lists disk

theorem isTold_concat : IsTold front group back disk (discovered ++ [found]) ↔
    IsTold front group back disk discovered ∨
      Reaches front group back found ∧ found.Lists disk := by
  simp [IsTold, or_and_right, exists_or]

/-- What has become of a group in its place, whose disk had no size, and of the other groups. -/
structure Follows (P : DiskGroupStatus → Prop) (disk : String) (size : UInt64)
    (front : List DiskGroupStatus) (group : DiskGroupStatus) (back : List DiskGroupStatus)
    (discovered front' : List DiskGroupStatus) (group' : DiskGroupStatus)
    (back' : List DiskGroupStatus) : Prop where
  value : applyDiscovered (front ++ group :: back) discovered = front' ++ group' :: back'
  length : front'.length = front.length
  others : ∀ other ∈ front' ++ back', P other
  lists : group'.Lists disk ↔ group.Lists disk
  told : IsTold front group back disk discovered → group'.SizeIs disk size
  missed : ¬IsTold front group back disk discovered → group'.SizeIs disk 0

namespace Follows

variable {front' back' : List DiskGroupStatus} {group' : DiskGroupStatus}

/-- The shapes are those of the beginning, with what was added behind. -/
theorem shapes (h : Follows P disk size front group back discovered front' group' back') :
    ∃ added : List DiskGroupStatus, added.Sublist discovered ∧
      front'.map (·.shape) = front.map (·.shape) ∧ group'.shape = group.shape ∧
        back'.map (·.shape) = back.map (·.shape) ++ added.map (·.shape) := by
  obtain ⟨added, hadded, hshapes⟩ :=
    map_shape_applyDiscovered (front ++ group :: back) discovered
  rw [h.value] at hshapes
  simp only [List.map_append, List.map_cons, List.append_assoc, List.cons_append] at hshapes
  obtain ⟨hfront, hrest⟩ := List.append_inj hshapes (by simp [h.length])
  obtain ⟨hgroup, hback⟩ := List.cons.inj hrest
  exact ⟨added, hadded, hfront, hgroup, hback⟩

/-- The next discovered group is merged into the followed one exactly if it reaches that. -/
theorem isTarget_iff_reaches
    (h : Follows P disk size front group back discovered front' group' back')
    (htypes : ∀ other ∈ front, other.type ≠ group.type)
    (hnext : ∀ other ∈ discovered, other.name ≠ found.name) :
    IsTarget front' group' back' found ↔ Reaches front group back found := by
  obtain ⟨added, hadded, hfront, hgroup, hback⟩ := h.shapes
  have htype : group'.type = group.type := (Prod.mk.inj hgroup).2
  have htypes' : ∀ other ∈ front', other.type ≠ group'.type := by
    intro other hother
    have hshape : other.shape ∈ front.map (·.shape) := hfront ▸ List.mem_map_of_mem hother
    obtain ⟨old, hold, heq⟩ := List.mem_map.1 hshape
    rw [htype, ← (Prod.mk.inj heq).2]
    exact htypes old hold
  have hfresh : ∀ other ∈ added, other.name ≠ found.name :=
    fun other hother => hnext other (hadded.subset hother)
  exact (isTarget_iff htypes').trans (reaches_congr hfront hgroup hback hfresh)

/-- One more discovered group. -/
theorem concat (h : Follows P disk size front group back discovered front' group' back')
    (htypes : ∀ other ∈ front, other.type ≠ group.type)
    (hnext : ∀ other ∈ discovered, other.name ≠ found.name) (hsize : found.SizeIs disk size)
    (hmerge : ∀ other, P other → P (DiskGroupStatus.merge found other))
    (hnew : IsNew (applyDiscovered (front ++ group :: back) discovered) found → P found) :
    ∃ front'' group'' back'', Follows P disk size front group back (discovered ++ [found])
      front'' group'' back'' := by
  have htarget := h.isTarget_iff_reaches htypes hnext
  have hvalue : applyDiscovered (front ++ group :: back) (discovered ++ [found]) =
      applyGroup (front' ++ group' :: back') found := by
    rw [applyDiscovered_concat, h.value]
  rcases applyGroup_append_cons_cases front' group' back' found with
    ⟨hreached, happly⟩ | ⟨hmissed, front'', back'', happly, hlength, hmem⟩
  · refine ⟨front', DiskGroupStatus.merge found group', back', hvalue.trans happly, h.length,
      h.others, lists_merge.trans h.lists, fun htold => ?_, fun hnot => ?_⟩
    · by_cases hsooner : IsTold front group back disk discovered
      · exact (h.told hsooner).merge hsize
      · have hlists := ((isTold_concat.1 htold).resolve_left hsooner).2
        exact (h.missed hsooner).merge_of_zero hsize hlists
    · have hlists : ¬found.Lists disk :=
        fun hlists => hnot (isTold_concat.2 (Or.inr ⟨htarget.1 hreached, hlists⟩))
      exact (h.missed fun hsooner => hnot (isTold_concat.2 (Or.inl hsooner))).merge_of_not_lists
        hlists
  · refine ⟨front'', group', back'', hvalue.trans happly, hlength.trans h.length, ?_, h.lists,
      fun htold => ?_, fun hnot => ?_⟩
    · intro other hother
      rcases hmem other hother with hold | ⟨old, hold, rfl⟩ | ⟨rfl, hisNew⟩
      · exact h.others other hold
      · exact hmerge old (h.others old hold)
      · exact hnew (h.value ▸ hisNew)
    · rcases isTold_concat.1 htold with hsooner | ⟨hreaches, -⟩
      · exact h.told hsooner
      · exact absurd (htarget.2 hreaches) hmissed
    · exact h.missed fun hsooner => hnot (isTold_concat.2 (Or.inl hsooner))

end Follows

/-- One group in its place through all merging. A disk of it without a size gets one exactly if it
is told; and what every merging keeps and every added group has, all other groups have. -/
theorem exists_follows (hnames : (discovered.map (·.name)).Nodup)
    (htypes : ∀ other ∈ front, other.type ≠ group.type)
    (hsizes : ∀ found ∈ discovered, found.SizeIs disk size) (hzero : group.SizeIs disk 0)
    (hothers : ∀ other ∈ front ++ back, P other)
    (hmerge : ∀ found ∈ discovered, ∀ other, P other → P (DiskGroupStatus.merge found other))
    (hnew : ∀ sooner found later, discovered = sooner ++ found :: later →
      IsNew (applyDiscovered (front ++ group :: back) sooner) found → P found) :
    ∃ front' group' back',
      Follows P disk size front group back discovered front' group' back' := by
  induction discovered using List.reverseRecOn with
  | nil =>
      refine ⟨front, group, back, rfl, rfl, hothers, Iff.rfl, ?_, fun _ => hzero⟩
      rintro ⟨found, hfound, -⟩
      cases hfound
  | append_singleton discovered found ih =>
      have hmem : found ∈ discovered ++ [found] := List.mem_append_right _ List.mem_cons_self
      rw [List.map_append, List.nodup_append] at hnames
      obtain ⟨front', group', back', h⟩ :=
        ih hnames.1 (fun sooner hsooner => hsizes sooner (List.mem_append_left _ hsooner))
          (fun sooner hsooner => hmerge sooner (List.mem_append_left _ hsooner))
          (fun sooner next later heq => hnew sooner next (later ++ [found]) (by simp [heq]))
      refine h.concat htypes ?_ (hsizes found hmem) (hmerge found hmem)
        (hnew discovered found [] rfl)
      intro other hother
      exact hnames.2.2 other.name (List.mem_map_of_mem hother) found.name List.mem_cons_self

end ClusterWatch.Disks
