import ClusterWatch.Proofs.Disks.Relisting
import ClusterWatch.Proofs.Disks.Remerging
import ClusterWatch.Proofs.Pass.Observations
import ClusterWatch.Proofs.Pass.Run

/-!
Passes repeated on a platform that stays as it is.

Nodes and database are as any further pass finds them after one pass. The disk groups need two. If
the source node lists none, a pass merges the discovered groups once more into the same groups,
which changes nothing. If it lists some, they take over the recorded sizes, and what is taken over
settles with the second pass: a size is recorded for good, and what is taken over twice alike is
merged alike. Main statement: `repeats_run`.
-/

namespace ClusterWatch

open Disks

namespace Reconciler

variable {r : Reconciler} {before other : ClusterStatus} {now later last : Timestamp}
  {pod group disk : String} {type : DiskGroupType}

theorem configuredDevices_congr (hsource : r.sourcePod other = r.sourcePod before)
    (type : DiskGroupType) : r.configuredDevices other type = r.configuredDevices before type := by
  rw [configuredDevices, configuredDevices, hsource]

theorem standIn_congr {known others : List DiskGroupStatus}
    (h : others.map (·.shape) = known.map (·.shape)) (type : DiskGroupType)
    (devices : List String) : standIn others type devices = standIn known type devices := by
  have hany : others.any (·.type = some type) = known.any (·.type = some type) := by
    have hshapes := congrArg (·.any (·.2 = some type)) h
    simpa [List.any_map, Function.comp_def, DiskGroupStatus.shape] using hshapes
  rw [standIn, standIn, hany]

theorem exists_reportedBy_discovered (r : Reconciler) :
    ∃ reports, ∀ found ∈ r.discovered, ReportedBy reports found := by
  rcases r.discovered_cases with hnone | ⟨reports, -, hgroups⟩
  · exact ⟨[], by simp [hnone]⟩
  · exact ⟨reports, fun found hfound => reportedBy_discoveredGroups hgroups hfound⟩

section unlisted

/-- A type with configured devices has a group to merge discovered ones into. -/
theorem exists_mem_filledGroups (h : devicesAsDisks (r.configuredDevices before type) ≠ []) :
    ∃ group ∈ r.filledGroups before, group.type = some type := by
  by_cases hknown : ∃ group ∈ r.knownGroups before, group.type = some type
  · obtain ⟨group, hgroup, htype⟩ := hknown
    exact ⟨group, List.mem_append_left _ hgroup, htype⟩
  · obtain ⟨member, hmember⟩ := List.exists_mem_of_ne_nil _ h
    obtain ⟨front, back, hfilled, -⟩ := exists_filledGroups_eq
      (fun group hgroup htype => hknown ⟨group, hgroup, htype⟩) (List.mem_map_of_mem hmember)
    refine ⟨placeholder type (devicesAsDisks (r.configuredDevices before type)), ?_, rfl⟩
    rw [hfilled]
    exact List.mem_append_right front List.mem_cons_self

/-- After a pass nothing has to stand in for a type. -/
theorem standIn_reconcile (r : Reconciler) (before : ClusterStatus) (now : Timestamp)
    (type : DiskGroupType) :
    standIn (r.reconcile now before).value.diskGroups type (r.configuredDevices before type) =
      [] := by
  rw [standIn, if_pos]
  by_cases hempty : devicesAsDisks (r.configuredDevices before type) = []
  · rw [hempty, List.isEmpty_nil, Bool.or_true]
  · obtain ⟨group, hgroup, htype⟩ := exists_mem_filledGroups hempty
    obtain ⟨last, hlast, hlasttype⟩ := exists_mem_applyDiscovered
      (P := fun group => group.type = some type) hgroup htype fun _ _ _ h => h
    have hany : (r.reconcile now before).value.diskGroups.any (·.type = some type) = true := by
      rw [diskGroups_reconcile]
      exact List.any_eq_true.2 ⟨last, hlast, decide_eq_true hlasttype⟩
    rw [hany, Bool.true_or]

/-- Where no groups are listed, a further pass finds the groups as one pass leaves them. -/
theorem diskGroups_reconcile_of_unlisted (h : r.Unlisted before) :
    (r.reconcile later (r.reconcile now before).value).value.diskGroups =
      (r.reconcile now before).value.diskGroups := by
  have hsource : r.sourcePod (r.reconcile now before).value = r.sourcePod before :=
    sourcePod_reconcile
  have hknown : r.knownGroups (r.reconcile now before).value =
      (r.reconcile now before).value.diskGroups :=
    knownGroups_of_unlisted fun pod hpod => h pod (hsource.symm.trans hpod)
  have hfilled : r.filledGroups (r.reconcile now before).value =
      (r.reconcile now before).value.diskGroups := by
    rw [filledGroups, hknown]
    simp only [configuredDevices_congr hsource, standIn_reconcile, List.append_nil]
  obtain ⟨reports, hreports⟩ := r.exists_reportedBy_discovered
  rw [diskGroups_reconcile, hfilled, diskGroups_reconcile,
    applyDiscovered_applyDiscovered hreports]

end unlisted

section listed

/-- What the groups of a listed pod take over, the groups that discovered ones are merged into have
recorded. -/
theorem recordedSize_knownGroups (hsource : r.sourcePod before = some pod)
    (hgroup : group ∈ (r.console.diskGroups pod).value)
    (hdisk : disk ∈ (r.console.disks pod group).value) :
    recordedSize (r.knownGroups before) group disk =
      recordedSize before.diskGroups group disk := by
  rw [knownGroups_of_listed hsource (List.ne_nil_of_mem hgroup), Console.listed]
  exact recordedSize_listed hgroup hdisk

/-- A size that is taken over is recorded for good. -/
theorem recordedSize_reconcile_of_ne_zero (hsource : r.sourcePod before = some pod)
    (hgroup : group ∈ (r.console.diskGroups pod).value)
    (hdisk : disk ∈ (r.console.disks pod group).value)
    (h : recordedSize before.diskGroups group disk ≠ 0) :
    recordedSize (r.reconcile now before).value.diskGroups group disk =
      recordedSize before.diskGroups group disk := by
  have hknown := recordedSize_knownGroups hsource hgroup hdisk
  have hfilled : recordedSize (r.filledGroups before) group disk =
      recordedSize before.diskGroups group disk :=
    (recordedSize_append_of_ne_zero (hknown.symm ▸ h)).trans hknown
  rw [diskGroups_reconcile, recordedSize_applyDiscovered_of_ne_zero (hfilled.symm ▸ h), hfilled]

/-- Two passes from one source that take over the same size of a disk record the same. -/
theorem recordedSize_reconcile_congr (hsource : r.sourcePod before = some pod)
    (hother : r.sourcePod other = some pod) (hlisted : (r.console.diskGroups pod).value ≠ [])
    (h : recordedSize before.diskGroups group disk = recordedSize other.diskGroups group disk) :
    recordedSize (r.reconcile now before).value.diskGroups group disk =
      recordedSize (r.reconcile later other).value.diskGroups group disk := by
  have hknown : List.Forall₂ (SameSize group disk) (r.knownGroups before)
      (r.knownGroups other) := by
    rw [knownGroups_of_listed hsource hlisted, knownGroups_of_listed hother hlisted]
    exact sameSize_listed h
  have hshapes : (r.knownGroups before).map (·.shape) = (r.knownGroups other).map (·.shape) :=
    map_eq_of_forall₂ hknown fun _ _ hab => hab.shape
  have hfilled : List.Forall₂ (SameSize group disk) (r.filledGroups before)
      (r.filledGroups other) := by
    rw [filledGroups, filledGroups]
    simp only [standIn_congr hshapes, configuredDevices_congr (hsource.trans hother.symm)]
    exact List.rel_append hknown (List.forall₂_same.2 fun group _ => SameSize.refl group)
  rw [diskGroups_reconcile, diskGroups_reconcile]
  exact recordedSize_of_sameSize (sameSize_applyDiscovered hfilled r.discovered)

/-- After one pass, a further one records what is recorded of the listed disks. -/
theorem recordedSize_reconcile_reconcile (hsource : r.sourcePod before = some pod)
    (hgroup : group ∈ (r.console.diskGroups pod).value)
    (hdisk : disk ∈ (r.console.disks pod group).value) :
    recordedSize (r.reconcile later (r.reconcile now before).value).value.diskGroups group disk =
      recordedSize (r.reconcile now before).value.diskGroups group disk := by
  have hnext : r.sourcePod (r.reconcile now before).value = some pod :=
    sourcePod_reconcile.trans hsource
  by_cases hsame : recordedSize (r.reconcile now before).value.diskGroups group disk =
      recordedSize before.diskGroups group disk
  · exact recordedSize_reconcile_congr hnext hsource (List.ne_nil_of_mem hgroup) hsame
  · -- A size that the first pass changed was zero, and what it became stays.
    have hzero : recordedSize before.diskGroups group disk = 0 := by
      by_contra hne
      exact hsame (recordedSize_reconcile_of_ne_zero hsource hgroup hdisk hne)
    exact recordedSize_reconcile_of_ne_zero hnext hgroup hdisk (hzero ▸ hsame)

/-- Where groups are listed, a further pass finds the groups as two passes leave them. -/
theorem diskGroups_reconcile_of_listed (hsource : r.sourcePod before = some pod)
    (hlisted : (r.console.diskGroups pod).value ≠ []) :
    (r.reconcile last (r.reconcile later (r.reconcile now before).value).value).value.diskGroups =
      (r.reconcile later (r.reconcile now before).value).value.diskGroups := by
  have hfirst : r.sourcePod (r.reconcile now before).value = some pod :=
    sourcePod_reconcile.trans hsource
  have hsecond : r.sourcePod (r.reconcile later (r.reconcile now before).value).value =
      some pod := sourcePod_reconcile.trans hfirst
  have hknown : r.knownGroups (r.reconcile later (r.reconcile now before).value).value =
      r.knownGroups (r.reconcile now before).value := by
    rw [knownGroups_of_listed hfirst hlisted, knownGroups_of_listed hsecond hlisted]
    exact listed_congr fun group hgroup disk hdisk =>
      recordedSize_reconcile_reconcile hsource hgroup hdisk
  have hfilled : r.filledGroups (r.reconcile later (r.reconcile now before).value).value =
      r.filledGroups (r.reconcile now before).value := by
    rw [filledGroups, filledGroups, hknown]
    simp only [configuredDevices_congr (hsecond.trans hfirst.symm)]
  rw [diskGroups_reconcile, hfilled, ← diskGroups_reconcile]

end listed

/-- After two passes, a further one finds the disk groups as they are. -/
theorem diskGroups_reconcile_reconcile (before : ClusterStatus) (now later last : Timestamp) :
    (r.reconcile last (r.reconcile later (r.reconcile now before).value).value).value.diskGroups =
      (r.reconcile later (r.reconcile now before).value).value.diskGroups := by
  by_cases h : r.Unlisted before
  · apply diskGroups_reconcile_of_unlisted
    intro pod hpod
    exact h pod (sourcePod_reconcile.symm.trans hpod)
  · obtain ⟨pod, hsource, hlisted⟩ := exists_source_of_listing (mt unlisted_iff.2 h)
    exact diskGroups_reconcile_of_listed hsource hlisted

/-- A run of two passes or more ends with two passes. -/
theorem exists_run_eq (r : Reconciler) (status : ClusterStatus) {times : List Timestamp}
    (htimes : 2 ≤ times.length) :
    ∃ before now later, (r.run status times).value =
      (r.reconcile later (r.reconcile now before).value).value := by
  rcases List.eq_nil_or_concat times with rfl | ⟨sooner, later, rfl⟩
  · cases htimes
  · rcases List.eq_nil_or_concat sooner with rfl | ⟨front, now, rfl⟩
    · simp at htimes
    · simp only [List.concat_eq_append, value_run_concat]
      exact ⟨_, now, later, rfl⟩

/-- After two passes on a platform that stays as it is, one more finds the disk groups, the database
and the nodes as they are, apart from the lifecycle states. -/
theorem repeats_run (r : Reconciler) (status : ClusterStatus) {times : List Timestamp}
    (htimes : 2 ≤ times.length) (now : Timestamp) :
    let before := (r.run status times).value
    let after := (r.run status (times ++ [now])).value
    after.diskGroups = before.diskGroups ∧ after.database = before.database ∧
      after.nodes.map NodeStatus.observation = before.nodes.map NodeStatus.observation := by
  intro before after
  have hafter : after = (r.reconcile now before).value := value_run_concat times
  obtain ⟨start, first, second, hbefore⟩ :
      ∃ start first second, before =
        (r.reconcile second (r.reconcile first start).value).value := exists_run_eq r status htimes
  rw [hafter, hbefore]
  exact ⟨diskGroups_reconcile_reconcile start first second now, database_reconcile_reconcile,
    map_observation_reconcile⟩

/-- Passes over a node that lists one group two times, with a disk that a disk check reports. -/
def twice : Reconciler :=
  let platform :=
    (((Platform.addNode {} "racnode").respond "racnode-0" "--getasmdiskgroup=true"
      "DATA,DATA").respond "racnode-0" "--getasmdisks=DATA" "/dev/sdc").setDiskCheck "check-0"
        "\x7b\"disk\":\"/dev/sdc\",\"valid\":true,\"sizeGb\":50\x7d"
  Reconciler.on
    { name := "prod", topology := .instances [{ name := "racnode" }]
      diskGroups := [{ name := "DATA", type := .dbData, disks := ["/dev/sdc"] }] }
    platform (Diagnostic.Scripts.mountedAt "/scripts" "python3")

def twiceAfter (passes : Nat) : ClusterStatus :=
  (twice.run {} (List.replicate passes (Timestamp.ofUnix 0 0))).value

def twiceSizes (passes : Nat) : List (List UInt64) :=
  (twiceAfter passes).diskGroups.map fun group => group.disks.map (·.sizeGb)

theorem repeats_run_twice :
    2 ≤ (List.replicate 2 (Timestamp.ofUnix 0 0)).length ∧
      twiceSizes 1 = [[50], [0]] ∧ twiceSizes 2 = [[50], [50]] ∧
      (twiceAfter 3).diskGroups = (twiceAfter 2).diskGroups ∧
      (twiceAfter 3).database = (twiceAfter 2).database ∧
      (twiceAfter 3).nodes.map NodeStatus.observation =
        (twiceAfter 2).nodes.map NodeStatus.observation := by
  have htimes : 2 ≤ (List.replicate 2 (Timestamp.ofUnix 0 0)).length := by
    decide
  have hfirst : twiceSizes 1 = [[50], [0]] := by
    decide +kernel
  have hsecond : twiceSizes 2 = [[50], [50]] := by
    decide +kernel
  obtain ⟨hgroups, hdatabase, hnodes⟩ := repeats_run twice {} htimes (Timestamp.ofUnix 0 0)
  exact ⟨htimes, hfirst, hsecond, hgroups, hdatabase, hnodes⟩

end Reconciler

end ClusterWatch
