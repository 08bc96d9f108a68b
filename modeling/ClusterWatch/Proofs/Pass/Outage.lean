import ClusterWatch.Proofs.Pass.Groups
import ClusterWatch.Proofs.Pass.Run
import Mathlib.Data.List.Induction

/-!
Disk groups through an outage.

A pass that learns nothing about disk groups keeps them: none are listed, no stand-in has to be
filled in and the disk check reports nothing that counts. So the groups outlast any number of such
passes, whatever becomes of the nodes meanwhile, and the first listing afterwards takes over the
sizes that were recorded before the outage. Main statement: `survives_outage`.
-/

namespace ClusterWatch

open Disks

namespace ClusterStatus

/-- The disks of all groups of a name, in order. -/
def disksOf (status : ClusterStatus) (group : String) : List DiskStatus :=
  (status.diskGroups.filter (·.name = group)).flatMap (·.disks)

/-- The size that a snapshot gives a disk of a group: the one in its first entry of the disk, and
zero without an entry. -/
inductive FirstSize (status : ClusterStatus) (group disk : String) : UInt64 → Prop where
  | recorded (front back : List DiskStatus) (entry : DiskStatus) :
      status.disksOf group = front ++ entry :: back → (∀ other ∈ front, other.name ≠ disk) →
        entry.name = disk → FirstSize status group disk entry.sizeGb
  | unrecorded : (∀ other ∈ status.disksOf group, other.name ≠ disk) →
      FirstSize status group disk 0

/-- A group that is listed takes over the first size. -/
theorem firstSize_recordedSize (status : ClusterStatus) (group disk : String) :
    status.FirstSize group disk (recordedSize status.diskGroups group disk) := by
  have hsize : recordedSize status.diskGroups group disk =
      (((status.disksOf group).find? (·.name = disk)).map (·.sizeGb)).getD 0 := rfl
  rw [hsize]
  cases hfirst : (status.disksOf group).find? (·.name = disk) with
  | none =>
      apply FirstSize.unrecorded
      simpa using List.find?_eq_none.1 hfirst
  | some entry =>
      obtain ⟨hname, front, back, hdisks, hfront⟩ := List.find?_eq_some_iff_append.1 hfirst
      apply FirstSize.recorded front back entry hdisks
      · simpa using hfront
      · exact of_decide_eq_true hname

end ClusterStatus

namespace Reconciler

/-- The disk check reports nothing that counts: there is none, or two members of a group differ. -/
def Unreported (r : Reconciler) : Prop :=
  ∀ reports, r.console.reportedDisks r.spec = some reports →
    ∃ mismatch, discoveredGroups r.spec reports = .error mismatch

/-- A pass learns nothing about disk groups. -/
structure Outage (r : Reconciler) (before : ClusterStatus) : Prop where
  /-- No node is asked for groups, or the one that is asked lists none. -/
  unlisted : r.listing before = []
  /-- A type has a group, or no devices are known for it. -/
  covered : ∀ type, (∃ group ∈ before.diskGroups, group.type = some type) ∨
    r.configuredDevices before type = []
  unreported : r.Unreported

variable {r : Reconciler} {before : ClusterStatus} {now : Timestamp} {pod : String}

theorem Unreported.discovered_eq (h : r.Unreported) : r.discovered = [] := by
  rw [discovered]
  cases hreports : r.console.reportedDisks r.spec with
  | none => rfl
  | some reports =>
      obtain ⟨mismatch, herror⟩ := h reports hreports
      simp only [herror]
      rfl

/-- Without reports a pass has the groups that it knows and its stand-ins. -/
theorem Unreported.diskGroups_reconcile (h : r.Unreported) :
    (r.reconcile now before).value.diskGroups = r.knownGroups before ++ r.standIns before := by
  rw [Reconciler.diskGroups_reconcile, h.discovered_eq, filledGroups_eq]
  rfl

namespace Outage

theorem knownGroups_eq (h : r.Outage before) : r.knownGroups before = before.diskGroups :=
  knownGroups_of_unlisted (unlisted_iff.2 h.unlisted)

theorem standIns_eq (h : r.Outage before) : r.standIns before = [] := by
  rw [List.eq_nil_iff_forall_not_mem]
  intro group hgroup
  obtain ⟨type, hfills, -⟩ := mem_standIns_iff.1 hgroup
  rcases h.covered type with ⟨known, hknown, htype⟩ | hdevices
  · exact hfills.untyped known (h.knownGroups_eq ▸ hknown) htype
  · apply hfills.configured
    rw [hdevices]
    rfl

theorem diskGroups_reconcile (h : r.Outage before) :
    (r.reconcile now before).value.diskGroups = before.diskGroups := by
  rw [h.unreported.diskGroups_reconcile, h.knownGroups_eq, h.standIns_eq, List.append_nil]

end Outage

/-- Groups that a pod lists have its disks, with the sizes that are recorded first. -/
theorem forall₂_listed (c : Console) (pod : String) (spec : ClusterSpec) (status : ClusterStatus) :
    List.Forall₂ (fun name group => group.name = name ∧
        List.Forall₂ (fun disk member => member.name = disk ∧
          status.FirstSize name disk member.sizeGb) (c.disks pod name).value group.disks)
      (c.diskGroups pod).value (c.listed pod spec status.diskGroups) := by
  rw [Console.listed, List.forall₂_map_right_iff, List.forall₂_same]
  intro name _
  refine ⟨rfl, ?_⟩
  rw [listedGroup, List.forall₂_map_right_iff, List.forall₂_same]
  exact fun disk _ => ⟨rfl, status.firstSize_recordedSize name disk⟩

end Reconciler

namespace ClusterSpec

variable {spec : ClusterSpec} {scripts : Diagnostic.Scripts} {status : ClusterStatus}
  {rounds : List Round}

/-- Any number of passes that learn nothing keep the groups. -/
theorem diskGroups_runOver_of_outage
    (houtage : ∀ passed round, passed ++ [round] <+: rounds →
      (spec.reconcilerAt scripts round).Outage (spec.runOver scripts status passed)) :
    (spec.runOver scripts status rounds).diskGroups = status.diskGroups := by
  induction rounds using List.reverseRecOn with
  | nil => rfl
  | append_singleton rounds last ih =>
      have hsooner : (spec.runOver scripts status rounds).diskGroups = status.diskGroups := by
        apply ih
        intro passed round hearlier
        exact houtage passed round (hearlier.trans (List.prefix_append rounds [last]))
      have hlast := houtage rounds last (List.prefix_refl _)
      rw [runOver_concat, passOver, hlast.diskGroups_reconcile, hsooner]

/-- The disk groups are the same after an outage of any length. A pass after it whose node lists
groups, while the disk check still reports nothing that counts, begins with these, and each of their
disks has the size recorded first before the outage. -/
theorem survives_outage
    (houtage : ∀ passed round, passed ++ [round] <+: rounds →
      (spec.reconcilerAt scripts round).Outage (spec.runOver scripts status passed)) :
    (spec.runOver scripts status rounds).diskGroups = status.diskGroups ∧
      ∀ (round : Round) (pod : String),
        let r := spec.reconcilerAt scripts round
        r.sourcePod (spec.runOver scripts status rounds) = some pod →
          (r.console.diskGroups pod).value ≠ [] → r.Unreported →
            ∃ listed others,
              (spec.runOver scripts status (rounds ++ [round])).diskGroups = listed ++ others ∧
                List.Forall₂ (fun name group => group.name = name ∧
                    List.Forall₂ (fun disk member => member.name = disk ∧
                      status.FirstSize name disk member.sizeGb)
                    (r.console.disks pod name).value group.disks)
                  (r.console.diskGroups pod).value listed := by
  have hkept := diskGroups_runOver_of_outage houtage
  refine ⟨hkept, ?_⟩
  intro round pod r hsource hlisted hunreported
  refine ⟨r.console.listed pod spec status.diskGroups,
    r.standIns (spec.runOver scripts status rounds), ?_, Reconciler.forall₂_listed _ _ _ _⟩
  rw [runOver_concat, passOver, hunreported.diskGroups_reconcile,
    Reconciler.knownGroups_of_listed hsource hlisted, hkept]
  rfl

/-- A cluster of one node and one declared disk group. -/
def single : ClusterSpec where
  name := "prod"
  topology := .instances [{ name := "racnode" }]
  diskGroups := [{ name := "DATA", type := .dbData, disks := ["/dev/sdc", "/dev/sdd"] }]

def singleScripts : Diagnostic.Scripts :=
  Diagnostic.Scripts.mountedAt "/scripts" "python3"

/-- A snapshot with sizes, one of which is recorded twice. -/
def singleSized : ClusterStatus where
  nodes := [{ name := "racnode" }]
  diskGroups :=
    [⟨"DATA", some .dbData, "EXTERN", false, none,
        [⟨"/dev/sdc", 100, true⟩, ⟨"/dev/sdc", 70, false⟩]⟩,
      placeholder .crs [⟨"/dev/sdb", 50, true⟩]]

/-- A pass that finds the node gone. -/
def singleGone : Round :=
  ⟨{}, Timestamp.ofUnix 0 0⟩

/-- A pass that finds the node back, with a placeholder in place of a listing and disk checks that
report two sizes in one group. -/
def singleMute : Round where
  platform :=
    ((Platform.addNode {} "racnode").respond "racnode-0" "--getasmdiskgroup=true"
      "Pending\n").setDiskCheck "check-0"
        "[\"/dev/sdc\", true, 100]\n[\"/dev/sdd\", true, 200]"
  now := Timestamp.ofUnix 1 0

/-- A pass that finds the node listing its group. -/
def singleListed : Round where
  platform :=
    ((Platform.addNode {} "racnode").respond "racnode-0" "--getasmdiskgroup=true"
      "DATA").respond "racnode-0" "--getasmdisks=DATA" "/dev/sdd,/dev/sdc"
  now := Timestamp.ofUnix 2 0

theorem outage_singleGone :
    (single.reconcilerAt singleScripts singleGone).Outage singleSized where
  unlisted := by decide
  covered := by
    intro type
    cases type <;> decide
  unreported := nofun

theorem outage_singleMute : (single.reconcilerAt singleScripts singleMute).Outage
    (single.passOver singleScripts singleSized singleGone) where
  unlisted := by decide
  covered := by
    intro type
    cases type <;> decide
  unreported := by
    have hreports : (single.reconcilerAt singleScripts singleMute).console.reportedDisks single =
        some [⟨"/dev/sdc", 100, true⟩, ⟨"/dev/sdd", 200, true⟩] := by
      decide +kernel
    intro reports h
    obtain rfl := Option.some.inj (hreports.symm.trans h)
    exact ⟨_, rfl⟩

/-- The sizes of the disks in each group after all three passes. -/
def singleSizes : List (List UInt64) :=
  (single.runOver singleScripts singleSized [singleGone, singleMute, singleListed]).diskGroups.map
    fun group => group.disks.map (·.sizeGb)

theorem survives_outage_single :
    let r := single.reconcilerAt singleScripts singleListed
    (∀ passed round, passed ++ [round] <+: [singleGone, singleMute] →
        (single.reconcilerAt singleScripts round).Outage
          (single.runOver singleScripts singleSized passed)) ∧
      r.sourcePod (single.runOver singleScripts singleSized [singleGone, singleMute]) =
        some "racnode-0" ∧
      (r.console.diskGroups "racnode-0").value = ["DATA"] ∧ r.Unreported ∧
      (single.runOver singleScripts singleSized [singleGone, singleMute]).diskGroups =
        singleSized.diskGroups ∧
      singleSizes = [[0, 100]] ∧
      ∃ listed others,
        (single.runOver singleScripts singleSized
            ([singleGone, singleMute] ++ [singleListed])).diskGroups = listed ++ others ∧
          List.Forall₂ (fun name group => group.name = name ∧
              List.Forall₂ (fun disk member => member.name = disk ∧
                singleSized.FirstSize name disk member.sizeGb)
              (r.console.disks "racnode-0" name).value group.disks)
            (r.console.diskGroups "racnode-0").value listed := by
  intro r
  have houtage : ∀ passed round, passed ++ [round] <+: [singleGone, singleMute] →
      (single.reconcilerAt singleScripts round).Outage
        (single.runOver singleScripts singleSized passed) := by
    rintro passed round ⟨later, heq⟩
    cases passed with
    | nil =>
        obtain ⟨rfl, -⟩ := List.cons.inj heq
        exact outage_singleGone
    | cons first passed =>
        obtain ⟨rfl, hrest⟩ := List.cons.inj heq
        cases passed with
        | nil =>
            obtain ⟨rfl, -⟩ := List.cons.inj hrest
            exact outage_singleMute
        | cons second passed => simp at hrest
  have hsource : r.sourcePod (single.runOver singleScripts singleSized [singleGone, singleMute]) =
      some "racnode-0" := by
    decide
  have hlisted : (r.console.diskGroups "racnode-0").value = ["DATA"] := by
    decide
  have hunreported : r.Unreported := nofun
  have hsizes : singleSizes = [[0, 100]] := by
    decide +kernel
  obtain ⟨hkept, hback⟩ := survives_outage houtage
  exact ⟨houtage, hsource, hlisted, hunreported, hkept, hsizes,
    hback singleListed "racnode-0" hsource (hlisted ▸ List.cons_ne_nil _ _) hunreported⟩

end ClusterSpec

end ClusterWatch
