import ClusterWatch.Proofs.Pass.Groups

/-!
Names of disk groups.

Groups are known by their names: sizes are taken over by name, and discovered groups are merged by
name. A discovered group is added only under a name that no group has, but a stand-in is filled in
for a type, whatever the groups of other types are called. So a pass keeps names distinct except
where it fills in a stand-in beside a group that is named like the type. Main statement:
`nodup_diskGroups_reconcile_iff`.
-/

namespace ClusterWatch

open Disks

namespace Reconciler

variable {r : Reconciler} {before : ClusterStatus}

theorem nodup_standIn (known : List DiskGroupStatus) (type : DiskGroupType)
    (devices : List String) : ((standIn known type devices).map (·.name)).Nodup := by
  rw [standIn]
  split <;> simp

theorem nodup_standIns (r : Reconciler) (before : ClusterStatus) :
    ((r.standIns before).map (·.name)).Nodup := by
  rw [standIns, List.map_append, List.nodup_append]
  refine ⟨nodup_standIn _ _ _, nodup_standIn _ _ _, ?_⟩
  intro first hfirst second hsecond heq
  obtain ⟨group, hgroup, rfl⟩ := List.mem_map.1 hfirst
  obtain ⟨other, hother, rfl⟩ := List.mem_map.1 hsecond
  rw [mem_standIn hgroup, mem_standIn hother] at heq
  have hne : DiskGroupType.crs.keyword ≠ DiskGroupType.dbData.keyword := by
    decide
  exact hne heq

/-- The names of known groups are distinct if the listed ones are, or else those known before. -/
theorem nodup_knownGroups (hlisting : (r.listing before).Nodup)
    (hbefore : (before.diskGroups.map (·.name)).Nodup) :
    ((r.knownGroups before).map (·.name)).Nodup := by
  rcases r.knownGroups_cases before with ⟨-, hkept⟩ | ⟨pod, hsource, -, hlisted⟩
  · rw [hkept]
    exact hbefore
  · rw [hlisted, Console.map_name_listed, ← listing_of_source hsource]
    exact hlisting

theorem nodup_filledGroups_iff (hknown : ((r.knownGroups before).map (·.name)).Nodup) :
    ((r.filledGroups before).map (·.name)).Nodup ↔
      ∀ type, r.FillsIn before type →
        ∀ group ∈ r.knownGroups before, group.name ≠ type.keyword := by
  rw [filledGroups_eq, List.map_append, List.nodup_append]
  constructor
  · rintro ⟨-, -, hdisjoint⟩ type hfills group hgroup
    have hstandIn := mem_standIns_iff.2 ⟨type, hfills, rfl⟩
    exact hdisjoint group.name (List.mem_map_of_mem hgroup) type.keyword
      (List.mem_map_of_mem hstandIn)
  · intro h
    refine ⟨hknown, r.nodup_standIns before, ?_⟩
    rintro name hname standInName hstandInName
    obtain ⟨group, hgroup, rfl⟩ := List.mem_map.1 hname
    obtain ⟨other, hother, rfl⟩ := List.mem_map.1 hstandInName
    obtain ⟨type, hfills, rfl⟩ := mem_standIns_iff.1 hother
    exact h type hfills group hgroup

/-- From distinct names a pass over a node that lists distinct names makes distinct names exactly
if no stand-in that it fills in is named like a known group. -/
theorem nodup_diskGroups_reconcile_iff (hlisting : (r.listing before).Nodup)
    (hbefore : (before.diskGroups.map (·.name)).Nodup) (now : Timestamp) :
    ((r.reconcile now before).value.diskGroups.map (·.name)).Nodup ↔
      ∀ type, r.FillsIn before type →
        ∀ group ∈ r.knownGroups before, group.name ≠ type.keyword := by
  rw [diskGroups_reconcile, nodup_applyDiscovered_iff]
  exact nodup_filledGroups_iff (nodup_knownGroups hlisting hbefore)

/-- Passes over a node that lists one group, which is not declared, and is configured with a device
for the registry. -/
def listingOnly (group : String) : Reconciler :=
  let platform :=
    ((Platform.addNode {} "racnode").respond "racnode-0" "--getasmdiskgroup=true" group).respond
      "racnode-0" ("cat " ++ Diagnostic.envFilePath ++ " | grep " ++ Diagnostic.crsDevicesName)
      "CRS_ASM_DEVICE_LIST=/dev/sdb"
  Reconciler.on { name := "prod", topology := .instances [{ name := "racnode" }] } platform
    (Diagnostic.Scripts.mountedAt "/scripts" "python3")

def namesAfterListing (group : String) : List String :=
  ((listingOnly group).reconcile (Timestamp.ofUnix 0 0) {}).value.diskGroups.map (·.name)

theorem nodup_diskGroups_reconcile_iff_standIn :
    ((listingOnly "DATA").listing {}).Nodup ∧
      (({} : ClusterStatus).diskGroups.map (·.name)).Nodup ∧
      namesAfterListing "DATA" = ["DATA", "CRS"] ∧ (listingOnly "DATA").FillsIn {} .crs ∧
      ((namesAfterListing "DATA").Nodup ↔
        ∀ type, (listingOnly "DATA").FillsIn {} type →
          ∀ group ∈ (listingOnly "DATA").knownGroups {}, group.name ≠ type.keyword) := by
  have hlisting : ((listingOnly "DATA").listing {}).Nodup := by
    decide
  have hnames : namesAfterListing "DATA" = ["DATA", "CRS"] := by
    decide
  have hfills : (listingOnly "DATA").FillsIn {} .crs :=
    ⟨by decide, by decide⟩
  exact ⟨hlisting, List.nodup_nil, hnames, hfills,
    nodup_diskGroups_reconcile_iff hlisting List.nodup_nil (Timestamp.ofUnix 0 0)⟩

/-- Not every pass keeps the names distinct: an undeclared group that is named like a type does not
keep a stand-in for the type away. -/
theorem not_forall_nodup_diskGroups :
    ¬∀ (r : Reconciler) (before : ClusterStatus) (now : Timestamp),
      (r.spec.diskGroups.map (·.name)).Nodup → (r.listing before).Nodup →
        (before.diskGroups.map (·.name)).Nodup →
          ((r.reconcile now before).value.diskGroups.map (·.name)).Nodup := by
  intro hall
  have hnames : namesAfterListing "CRS" = ["CRS", "CRS"] := by
    decide
  have hnodup : (namesAfterListing "CRS").Nodup :=
    hall (listingOnly "CRS") {} (Timestamp.ofUnix 0 0) List.nodup_nil (by decide) List.nodup_nil
  rw [hnames] at hnodup
  exact absurd hnodup (by decide)

end Reconciler

end ClusterWatch
