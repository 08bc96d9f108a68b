import ClusterWatch.Proofs.Diagnostic.Keys
import ClusterWatch.Proofs.Pass.Repeating

/-!
Questions about one disk group fail alone.

Whatever the source node answers when it is asked for the disks and the redundancy of one group, the
nodes, the database and the state come out the same, and so do the other groups. The group itself
keeps its name, its type and its place. So the types that need a stand-in are the same, and every
discovered group is merged in the same place. Main statement: `contained_reconcile`.
-/

namespace ClusterWatch

open Disks

/-- The groups are the same, or both have the name and differ only in their disks and redundancy. -/
structure DiskGroupStatus.SameUnless (affected : String) (group other : DiskGroupStatus) :
    Prop where
  name : other.name = group.name
  type : other.type = group.type
  autoUpdate : other.autoUpdate = group.autoUpdate
  storageClass : other.storageClass = group.storageClass
  same : group.name ≠ affected → other = group

theorem mergesAlike_sameUnless (affected : String) :
    MergesAlike (DiskGroupStatus.SameUnless affected) where
  shape h := Prod.ext h.name.symm h.type.symm
  merge h found :=
    ⟨h.name, h.type, h.autoUpdate, h.storageClass, fun hname => by rw [h.same hname]⟩

namespace Console

open Diagnostic

variable {pod group : String} {p p' : Platform} {scripts : Scripts}

section general

variable (h : p.SameBut pod (scripts.groupKeys group) p')
include h

/-- What is no question about a group runs the same. -/
theorem run_eq_of_general (argv : List String) (hargv : argv ∈ scripts.general)
    (ns other : String) :
    (Console.mk p' ns scripts).run other argv = (Console.mk p ns scripts).run other argv :=
  run_eq h fun hkey => Scripts.not_mem_groupKeys_of_general hargv hkey.2

theorem probe_eq_of_general (argv : List String) (hargv : argv ∈ scripts.general)
    (ns other : String) :
    (Console.mk p' ns scripts).probe other argv = (Console.mk p ns scripts).probe other argv := by
  rw [probe, probe, run_eq_of_general h argv hargv]

theorem probeText_eq_of_general (argv : List String) (hargv : argv ∈ scripts.general)
    (ns other : String) : (Console.mk p' ns scripts).probeText other argv =
      (Console.mk p ns scripts).probeText other argv := by
  rw [probeText, probeText, probe_eq_of_general h argv hargv]

theorem vitals_eq (ns other : String) :
    (Console.mk p' ns scripts).vitals other = (Console.mk p ns scripts).vitals other := by
  have hhealth := probe_eq_of_general h scripts.clusterHealth (by simp [Scripts.general]) ns other
  have hinstance := probe_eq_of_general h scripts.instanceState (by simp [Scripts.general]) ns other
  simp only [vitals, clusterHealth, instanceState, hhealth, hinstance]

theorem updateNode_eq (ns : String) (nodes : List NodeStatus) (node : NodeSpec)
    (phase : NodeState) : (Console.mk p' ns scripts).updateNode nodes node phase =
      (Console.mk p ns scripts).updateNode nodes node phase := by
  have hstateFile : (Console.mk p' ns scripts).stateFile node.podName =
      (Console.mk p ns scripts).stateFile node.podName := by
    have hprobe := probe_eq_of_general h Diagnostic.stateFile (by simp [Scripts.general]) ns
      node.podName
    simp only [stateFile, hprobe]
  have hdetails : (Console.mk p' ns scripts).vipDetails node.vipService =
      (Console.mk p ns scripts).vipDetails node.vipService := by
    simp only [vipDetails, Platform.service, h.services]
  have hpresent : ∀ phase vitals,
      (Console.mk p' ns scripts).updatePresent nodes node phase vitals =
        (Console.mk p ns scripts).updatePresent nodes node phase vitals := by
    intro phase vitals
    simp only [updatePresent, see_bind, observe, nextState, mountedDevices, Platform.pod, h.pods,
      hdetails, hstateFile]
  have habsent : (Console.mk p' ns scripts).updateAbsent nodes node phase =
      (Console.mk p ns scripts).updateAbsent nodes node phase := by
    simp only [updateAbsent, see_bind]
    unfold absentEntry
    rw [hdetails]
  simp only [updateNode, vitals_eq h, hpresent, habsent]

theorem diskGroups_eq (ns other : String) :
    (Console.mk p' ns scripts).diskGroups other = (Console.mk p ns scripts).diskGroups other := by
  have hprobe := probe_eq_of_general h scripts.diskGroups (by simp [Scripts.general]) ns other
  simp only [diskGroups, hprobe]

theorem deviceList_eq_of_general (argv : List String) (hargv : argv ∈ scripts.general)
    (ns other : String) : (Console.mk p' ns scripts).deviceList other argv =
      (Console.mk p ns scripts).deviceList other argv := by
  rw [deviceList, deviceList, run_eq_of_general h argv hargv]

theorem dbVersion_eq (ns other : String) :
    (Console.mk p' ns scripts).dbVersion other = (Console.mk p ns scripts).dbVersion other := by
  have hprobe := probe_eq_of_general h scripts.dbVersion (by simp [Scripts.general]) ns other
  simp only [dbVersion, hprobe]

theorem gridHome_eq (ns other : String) :
    (Console.mk p' ns scripts).gridHome other = (Console.mk p ns scripts).gridHome other := by
  have hrun := run_eq_of_general h Diagnostic.gridHome (by simp [Scripts.general]) ns other
  simp only [gridHome, hrun]

theorem serviceState_eq (ns other service database : String) :
    (Console.mk p' ns scripts).serviceState other service database =
      (Console.mk p ns scripts).serviceState other service database := by
  have hkey := scripts.serviceState_not_mem_groupKeys group service database
  have hrun : (Console.mk p' ns scripts).run other (scripts.serviceState service database) =
      (Console.mk p ns scripts).run other (scripts.serviceState service database) :=
    run_eq h fun hmem => hkey hmem.2
  simp only [serviceState, probeText, probe, hrun]

end general

section groups

/-- A group that a pod lists differs only if it is the one that is asked about. -/
theorem sameUnless_listed (h : p.SameBut pod (scripts.groupKeys group) p') (ns other : String)
    (spec : ClusterSpec) (previous : List DiskGroupStatus) :
    List.Forall₂ (DiskGroupStatus.SameUnless group)
      ((Console.mk p ns scripts).listed other spec previous)
      ((Console.mk p' ns scripts).listed other spec previous) := by
  rw [listed, listed, diskGroups_eq h, List.forall₂_map_left_iff, List.forall₂_map_right_iff,
    List.forall₂_same]
  intro name _
  refine ⟨rfl, rfl, rfl, rfl, fun hne => ?_⟩
  have hasked : ∀ argv, Exec.key argv ∈ scripts.groupKeys name →
      (Console.mk p' ns scripts).probe other argv = (Console.mk p ns scripts).probe other argv := by
    intro argv hargv
    rw [probe, probe, run_eq h fun hkey => Scripts.not_mem_groupKeys_of_ne hne hargv hkey.2]
  have hdisks := hasked (scripts.disks name) (Scripts.mem_groupKeys.2 (Or.inl rfl))
  have hredundancy := hasked (scripts.redundancy name) (Scripts.mem_groupKeys.2 (Or.inr rfl))
  simp only [disks, redundancy, probeText, hdisks, hredundancy]

end groups

end Console

namespace Reconciler

variable {spec : ClusterSpec} {scripts : Diagnostic.Scripts} {p p' : Platform}
  {pod group : String}

section general

variable (h : p.SameBut pod (scripts.groupKeys group) p')
include h

theorem probedPhases_eq :
    (Reconciler.on spec p' scripts).probedPhases = (Reconciler.on spec p scripts).probedPhases := by
  have hphase : (Reconciler.on spec p' scripts).probePhase =
      (Reconciler.on spec p scripts).probePhase := by
    funext node
    simp only [probePhase, Reconciler.on, Platform.workload, Platform.pod, h.workloads, h.pods]
  rw [probedPhases, probedPhases, hphase]
  rfl

theorem foldPhases_eq (nodes : List NodeStatus) (phases : List (NodeSpec × NodeState)) :
    (Reconciler.on spec p' scripts).foldPhases nodes phases =
      (Reconciler.on spec p scripts).foldPhases nodes phases := by
  simp only [foldPhases, Reconciler.on, Console.updateNode_eq h]

theorem sourcePod_eq_of_sameBut (before : ClusterStatus) :
    (Reconciler.on spec p' scripts).sourcePod before =
      (Reconciler.on spec p scripts).sourcePod before := by
  rw [sourcePod, sourcePod, probedPhases_eq h, foldPhases_eq h]

theorem databaseStatus_eq (other : String) :
    (Reconciler.on spec p' scripts).databaseStatus other =
      (Reconciler.on spec p scripts).databaseStatus other := by
  have hstate := Console.probeText_eq_of_general h scripts.dbState
    (by simp [Diagnostic.Scripts.general]) spec.ns other
  have hrole := Console.probeText_eq_of_general h scripts.dbRole
    (by simp [Diagnostic.Scripts.general]) spec.ns other
  have hconnect := Console.probeText_eq_of_general h scripts.connectString
    (by simp [Diagnostic.Scripts.general]) spec.ns other
  have hpdbConnect := Console.probeText_eq_of_general h scripts.pdbConnectString
    (by simp [Diagnostic.Scripts.general]) spec.ns other
  simp only [databaseStatus, serviceState, Reconciler.on, Console.dbState, hstate, Console.dbRole,
    hrole, Console.connectString, hconnect, Console.pdbConnectString, hpdbConnect,
    Console.serviceState_eq h, Console.dbVersion_eq h, Console.gridHome_eq h]

theorem nodes_eq (before : ClusterStatus) (now now' : Timestamp) :
    ((Reconciler.on spec p' scripts).reconcile now' before).value.nodes =
      ((Reconciler.on spec p scripts).reconcile now before).value.nodes := by
  rw [nodes_reconcile, nodes_reconcile, probedPhases_eq h, foldPhases_eq h]

theorem database_eq (before : ClusterStatus) (now now' : Timestamp) :
    ((Reconciler.on spec p' scripts).reconcile now' before).value.database =
      ((Reconciler.on spec p scripts).reconcile now before).value.database := by
  rw [database_reconcile, database_reconcile, sourcePod_eq_of_sameBut h]
  simp only [databaseStatus_eq h]

theorem configuredDevices_eq (before : ClusterStatus) (type : DiskGroupType) :
    (Reconciler.on spec p' scripts).configuredDevices before type =
      (Reconciler.on spec p scripts).configuredDevices before type := by
  have hcrs := Console.deviceList_eq_of_general h Diagnostic.crsDeviceList
    (by simp [Diagnostic.Scripts.general]) spec.ns
  have hdb := Console.deviceList_eq_of_general h Diagnostic.dbDeviceList
    (by simp [Diagnostic.Scripts.general]) spec.ns
  rw [configuredDevices, configuredDevices, sourcePod_eq_of_sameBut h]
  simp only [Reconciler.on, Console.crsDeviceList, Console.dbDeviceList, hcrs, hdb]

theorem discovered_eq : (Reconciler.on spec p' scripts).discovered =
    (Reconciler.on spec p scripts).discovered := by
  have hlogs : p'.diskCheckLogs spec.ns spec.name = p.diskCheckLogs spec.ns spec.name := by
    rw [Platform.diskCheckLogs, Platform.diskCheckLogs, h.diskChecks]
  simp only [discovered, Reconciler.on, Console.reportedDisks, hlogs]

/-- The groups that a pass starts from are the listed ones, which differ only where the group is
asked about, or all of those before. -/
theorem exists_knownGroups_eq (spec : ClusterSpec) (before : ClusterStatus) :
    ∃ listed listed' kept,
      (Reconciler.on spec p scripts).knownGroups before = listed ++ kept ∧
      (Reconciler.on spec p' scripts).knownGroups before = listed' ++ kept ∧
      List.Forall₂ (DiskGroupStatus.SameUnless group) listed listed' ∧
      listed.map (·.name) = (Reconciler.on spec p scripts).listing before := by
  have hsource : (Reconciler.on spec p' scripts).sourcePod before =
      (Reconciler.on spec p scripts).sourcePod before := sourcePod_eq_of_sameBut h before
  have hgroups := Console.diskGroups_eq h spec.ns
  rcases (Reconciler.on spec p scripts).knownGroups_cases before with
    ⟨hlisting, hkept⟩ | ⟨source, hpod, hsome, hlisted⟩
  · have hunlisted := unlisted_iff.2 hlisting
    have hunlisted' : (Reconciler.on spec p' scripts).Unlisted before := by
      intro other hother
      exact (congrArg (·.value) (hgroups other)).trans (hunlisted other (hsource ▸ hother))
    rw [hkept, knownGroups_of_unlisted hunlisted', hlisting]
    exact ⟨[], [], before.diskGroups, rfl, rfl, List.Forall₂.nil, rfl⟩
  · have hsome' : ((Reconciler.on spec p' scripts).console.diskGroups source).value ≠ [] := by
      intro hnone
      exact hsome ((congrArg (·.value) (hgroups source)).symm.trans hnone)
    rw [hlisted, knownGroups_of_listed (hsource.trans hpod) hsome', listing_of_source hpod]
    exact ⟨_, _, [], (List.append_nil _).symm, (List.append_nil _).symm,
      Console.sameUnless_listed h spec.ns source spec before.diskGroups,
      Console.map_name_listed _ _ _ _⟩

theorem standIns_eq_of_shapes (before : ClusterStatus)
    (hshapes : ((Reconciler.on spec p' scripts).knownGroups before).map (·.shape) =
      ((Reconciler.on spec p scripts).knownGroups before).map (·.shape)) :
    (Reconciler.on spec p' scripts).standIns before =
      (Reconciler.on spec p scripts).standIns before := by
  rw [standIns, standIns, configuredDevices_eq h, configuredDevices_eq h, standIn_congr hshapes,
    standIn_congr hshapes]

/-- The groups after a pass are the listed ones, which differ only where the group is asked about,
and others, which are the same. -/
theorem exists_diskGroups_eq (before : ClusterStatus) (now now' : Timestamp) :
    ∃ listed listed' others,
      ((Reconciler.on spec p scripts).reconcile now before).value.diskGroups = listed ++ others ∧
      ((Reconciler.on spec p' scripts).reconcile now' before).value.diskGroups =
        listed' ++ others ∧
      listed.map (·.name) = (Reconciler.on spec p scripts).listing before ∧
      List.Forall₂ (DiskGroupStatus.SameUnless group) listed listed' := by
  obtain ⟨listed, listed', kept, hknown, hknown', hsame, hnames⟩ :=
    exists_knownGroups_eq h spec before
  have halike := mergesAlike_sameUnless group
  have hshapes : ((Reconciler.on spec p' scripts).knownGroups before).map (·.shape) =
      ((Reconciler.on spec p scripts).knownGroups before).map (·.shape) := by
    rw [hknown, hknown', List.map_append, List.map_append,
      map_eq_of_forall₂ hsame fun _ _ hab => halike.shape hab]
  have hstandIns := standIns_eq_of_shapes h before hshapes
  rw [diskGroups_reconcile, diskGroups_reconcile, discovered_eq h, filledGroups_eq,
    filledGroups_eq, hstandIns, hknown, hknown', List.append_assoc, List.append_assoc, ← hnames]
  obtain ⟨merged, merged', others, hvalue, hvalue', hmerged, hmergedNames⟩ :=
    halike.applyDiscovered hsame
      (kept ++ (Reconciler.on spec p scripts).standIns before)
      (Reconciler.on spec p scripts).discovered
  exact ⟨merged, merged', others, hvalue, hvalue', hmergedNames, hmerged⟩

end general

/-- On platforms that answer differently only to the two questions about one group in one pod, a
pass makes the same nodes, database and state, and the same groups but for the disks and the
redundancy of listed groups of that name. -/
theorem contained_reconcile (h : p.SameBut pod (scripts.groupKeys group) p')
    (before : ClusterStatus) (now now' : Timestamp) :
    let r := Reconciler.on spec p scripts
    let after := (r.reconcile now before).value
    let after' := ((Reconciler.on spec p' scripts).reconcile now' before).value
    after'.nodes = after.nodes ∧ after'.database = after.database ∧ after'.state = after.state ∧
      ∃ listed listed' others, after.diskGroups = listed ++ others ∧
        after'.diskGroups = listed' ++ others ∧ listed.map (·.name) = r.listing before ∧
        List.Forall₂ (DiskGroupStatus.SameUnless group) listed listed' := by
  intro r after after'
  have hnodes : after'.nodes = after.nodes := nodes_eq h before now now'
  have hstate : after'.state = after.state := by
    rw [state_reconcile, state_reconcile, hnodes]
  exact ⟨hnodes, database_eq h before now now', hstate, exists_diskGroups_eq h before now now'⟩

/-- A platform whose node lists two groups and tells the disks of both. -/
def outspoken : Platform :=
  (((Platform.addNode {} "racnode").respond "racnode-0" "--getasmdiskgroup=true"
    "DATA,FRA").respond "racnode-0" "--getasmdisks=DATA" "/dev/sdc").respond
      "racnode-0" "--getasmdisks=FRA" "/dev/sdd"

/-- The same platform, with failures about the first group. -/
def faltering : Platform :=
  (outspoken.breakStream "racnode-0" "--getasmdisks=DATA").fail "racnode-0"
    "--getdgredundancy=DATA" 1

/-- Passes over it for a cluster that declares both groups. -/
def passOn (platform : Platform) : Reconciler :=
  Reconciler.on
    { name := "prod", topology := .instances [{ name := "racnode" }]
      diskGroups := [{ name := "DATA", type := .dbData }, { name := "FRA", type := .dbRecovery }] }
    platform (Diagnostic.Scripts.mountedAt "/scripts" "python3")

def disksAfter (platform : Platform) : List (List String) :=
  ((passOn platform).reconcile (Timestamp.ofUnix 0 0) {}).value.diskGroups.map
    fun group => group.disks.map (·.name)

theorem contained_reconcile_faltering :
    outspoken.SameBut "racnode-0" ((passOn outspoken).console.scripts.groupKeys "DATA") faltering ∧
      disksAfter outspoken = [["/dev/sdc"], ["/dev/sdd"]] ∧
      disksAfter faltering = [[], ["/dev/sdd"]] ∧
      let after := ((passOn outspoken).reconcile (Timestamp.ofUnix 0 0) {}).value
      let after' := ((passOn faltering).reconcile (Timestamp.ofUnix 0 0) {}).value
      after'.nodes = after.nodes ∧ after'.database = after.database ∧ after'.state = after.state ∧
        ∃ listed listed' others, after.diskGroups = listed ++ others ∧
          after'.diskGroups = listed' ++ others ∧
          listed.map (·.name) = (passOn outspoken).listing {} ∧
          List.Forall₂ (DiskGroupStatus.SameUnless "DATA") listed listed' := by
  have hsame : outspoken.SameBut "racnode-0"
      ((passOn outspoken).console.scripts.groupKeys "DATA") faltering :=
    ((Platform.SameBut.refl outspoken).script List.mem_cons_self _).script
      (List.mem_cons_of_mem _ List.mem_cons_self) _
  have hafter : disksAfter outspoken = [["/dev/sdc"], ["/dev/sdd"]] := by
    decide
  have hafter' : disksAfter faltering = [[], ["/dev/sdd"]] := by
    decide
  exact ⟨hsame, hafter, hafter',
    contained_reconcile hsame {} (Timestamp.ofUnix 0 0) (Timestamp.ofUnix 0 0)⟩

end Reconciler

end ClusterWatch
