import ClusterWatch.Proofs.Disks.Following
import ClusterWatch.Proofs.Pass.Groups
import ClusterWatch.Proofs.Pass.Run
import Mathlib.Data.List.Nodup

/-!
Recorded disk sizes along runs of passes.

A group that is listed or kept takes its sizes from the snapshot before, and merging never changes
one that is not zero. A group that a pass makes anew does not look back: a stand-in begins without
sizes, and a discovered group is added with the reported ones. So a recorded size is carried exactly
as long as the disk check gives it again to every group that is made anew. Main statement:
`carries_runOver_iff`.
-/

namespace ClusterWatch

open Disks

namespace ClusterStatus

variable {status : ClusterStatus} {group disk : String} {size : UInt64}

/-- A group of the name has a disk of the name. -/
def Lists (status : ClusterStatus) (group disk : String) : Prop :=
  ∃ g ∈ status.diskGroups, g.name = group ∧ g.Lists disk

/-- Every disk of the name in a group of the name has the size. -/
def Carries (status : ClusterStatus) (group disk : String) (size : UInt64) : Prop :=
  ∀ g ∈ status.diskGroups, g.name = group → g.SizeIs disk size

/-- A disk of the name in a group of the name has the size. -/
def Records (status : ClusterStatus) (group disk : String) (size : UInt64) : Prop :=
  ∃ g ∈ status.diskGroups, g.name = group ∧
    ∃ member ∈ g.disks, member.name = disk ∧ member.sizeGb = size

theorem Records.lists (h : status.Records group disk size) : status.Lists group disk := by
  obtain ⟨g, hg, hname, member, hmember, hdisk, -⟩ := h
  exact ⟨g, hg, hname, List.mem_map.2 ⟨member, hmember, hdisk⟩⟩

/-- Among distinct groups of distinct disks, one record of a size is the only one. -/
theorem Records.carries (h : status.Records group disk size)
    (hgroups : (status.diskGroups.map (·.name)).Nodup)
    (hdisks : ∀ g ∈ status.diskGroups, (g.disks.map (·.name)).Nodup) :
    status.Carries group disk size := by
  obtain ⟨g, hg, hname, member, hmember, hdisk, hsize⟩ := h
  intro other hother hothername entry hentry hentryname
  obtain rfl := List.inj_on_of_nodup_map hgroups hother hg (hothername.trans hname.symm)
  obtain rfl :=
    List.inj_on_of_nodup_map (hdisks other hother) hentry hmember (hentryname.trans hdisk.symm)
  exact hsize

/-- A size that is carried is what a group takes that is listed again. -/
theorem Carries.recordedSize_eq (h : status.Carries group disk size)
    (hlists : status.Lists group disk) : recordedSize status.diskGroups group disk = size := by
  obtain ⟨g, hg, hname, hdisk⟩ := hlists
  obtain ⟨member, hmember, hmembername⟩ := List.mem_map.1 hdisk
  rw [recordedSize]
  cases hfirst : ((status.diskGroups.filter (·.name = group)).flatMap (·.disks)).find?
      (·.name = disk) with
  | none =>
      have hmem : member ∈ (status.diskGroups.filter (·.name = group)).flatMap (·.disks) :=
        List.mem_flatMap.2 ⟨g, List.mem_filter.2 ⟨hg, decide_eq_true hname⟩, hmember⟩
      have hnot := List.find?_eq_none.1 hfirst member hmem
      exact absurd (decide_eq_true hmembername) hnot
  | some first =>
      have hfirstname : first.name = disk := key_of_find? hfirst
      obtain ⟨owner, howner, hin⟩ := List.mem_flatMap.1 (List.mem_of_find?_eq_some hfirst)
      obtain ⟨hstatus, hownername⟩ := List.mem_filter.1 howner
      exact h owner hstatus (of_decide_eq_true hownername) first hin hfirstname

end ClusterStatus

namespace Reconciler

/-- A discovered group tells the stand-in for a type the sizes of its disks: it has the stand-in's
name and no known group has; or it is of the type, and no group has its name. -/
def Tells (r : Reconciler) (before : ClusterStatus) (type : DiskGroupType)
    (found : DiskGroupStatus) : Prop :=
  (found.name = type.keyword ∧ ∀ other ∈ r.knownGroups before, other.name ≠ found.name) ∨
    (found.type = some type ∧ ∀ other ∈ r.filledGroups before, other.name ≠ found.name)

/-- The disk check gives a recorded size again to whatever a pass makes anew of a group. -/
structure Restores (r : Reconciler) (before : ClusterStatus) (group disk : String)
    (size : UInt64) : Prop where
  /-- A stand-in that has the disk is told the size. -/
  standIn : ∀ type, (∀ other ∈ r.knownGroups before, other.type ≠ some type) →
    type.keyword = group →
    disk ∈ (devicesAsDisks (r.configuredDevices before type)).map (·.name) →
    r.reportedSize disk = size ∧ ∃ found ∈ r.discovered, r.Tells before type found ∧
      found.Lists disk
  /-- A discovered group that has the disk and is added brings the size. -/
  added : ∀ sooner found later, r.discovered = sooner ++ found :: later →
    IsNew (applyDiscovered (r.filledGroups before) sooner) found →
    found.name = group → found.Lists disk → r.reportedSize disk = size

variable {r : Reconciler} {before : ClusterStatus} {now : Timestamp} {group disk : String}
  {size : UInt64} {type : DiskGroupType} {found : DiskGroupStatus}

/-- The group of a name has the size, if it has the disk. -/
def HasSize (group disk : String) (size : UInt64) (g : DiskGroupStatus) : Prop :=
  g.name = group → g.SizeIs disk size

theorem HasSize.merge (hsize : size ≠ 0) {g : DiskGroupStatus} (h : HasSize group disk size g) :
    HasSize group disk size (DiskGroupStatus.merge found g) :=
  fun hname => (h hname).merge_of_ne_zero hsize

theorem hasSize_listedGroup (hcarries : before.Carries group disk size)
    (hlists : before.Lists group disk) (spec : ClusterSpec) (name : String) (disks : List String)
    (redundancy : String) :
    HasSize group disk size (listedGroup spec before.diskGroups name disks redundancy) := by
  rintro rfl member hmember hname
  obtain ⟨listed, -, rfl⟩ := List.mem_map.1 hmember
  obtain rfl : listed = disk := hname
  exact hcarries.recordedSize_eq hlists

/-- What is listed anew takes a carried size, and what is kept has it. -/
theorem hasSize_knownGroups (hcarries : before.Carries group disk size)
    (hlists : before.Lists group disk) :
    ∀ g ∈ r.knownGroups before, HasSize group disk size g := by
  rcases r.knownGroups_cases before with ⟨-, hkept⟩ | ⟨pod, -, -, hlisted⟩
  · rw [hkept]
    exact hcarries
  · rw [hlisted, Console.listed, List.forall_mem_map]
    intro name _
    exact hasSize_listedGroup hcarries hlists r.spec name _ _

theorem tells_iff_reaches {front back : List DiskGroupStatus} {disks : List DiskStatus}
    (hfilled : r.filledGroups before = front ++ placeholder type disks :: back)
    (hfront : ∀ other ∈ r.knownGroups before, other ∈ front)
    (hothers : ∀ other ∈ front, other ∈ r.knownGroups before ∨
      ∃ type' disks, type' ≠ type ∧ other = placeholder type' disks) :
    r.Tells before type found ↔ Reaches front (placeholder type disks) back found := by
  have hstands : standsInFor found (placeholder type disks) = true ↔ found.type = some type := by
    rw [standsInFor]
    cases found.type with
    | none => simp
    | some other =>
        simp only [placeholder, Bool.and_eq_true, decide_eq_true_eq, Option.some.injEq]
        exact ⟨fun h => h.1.symm, fun h => ⟨h.symm, decide_eq_true (congrArg _ h.symm)⟩⟩
  have hnames : found.name = type.keyword →
      ((∀ other ∈ r.knownGroups before, other.name ≠ found.name) ↔
        ∀ other ∈ front, other.name ≠ found.name) := by
    intro hname
    refine ⟨fun h other hother => ?_, fun h other hother => h other (hfront other hother)⟩
    rcases hothers other hother with hknown | ⟨type', disks', hne, rfl⟩
    · exact h other hknown
    · rw [hname]
      exact fun heq => hne (keyword_inj.1 heq)
  rw [Tells, Reaches, hstands, hfilled]
  exact or_congr (and_congr_right hnames) Iff.rfl

/-- A discovered group that is added has the size if the disk check gives it again. -/
theorem Restores.hasSize_added (h : r.Restores before group disk size)
    {sooner later : List DiskGroupStatus} (heq : r.discovered = sooner ++ found :: later)
    (hnew : IsNew (applyDiscovered (r.filledGroups before) sooner) found) :
    HasSize group disk size found := by
  intro hname
  have hfound : found ∈ r.discovered := heq ▸ List.mem_append_right sooner List.mem_cons_self
  by_cases hlists : found.Lists disk
  · exact h.added sooner found later heq hnew hname hlists ▸ sizeIs_discovered hfound disk
  · exact DiskGroupStatus.SizeIs.of_not_lists hlists

theorem hasSize_placeholder {disks : List DiskStatus}
    (h : type.keyword = group → disk ∉ disks.map (·.name)) :
    HasSize group disk size (placeholder type disks) :=
  fun hname => DiskGroupStatus.SizeIs.of_not_lists (h hname)

/-- The stand-in that has the disk, followed through the merging of a pass. -/
theorem exists_follows_standIn {P : DiskGroupStatus → Prop} (now : Timestamp)
    (hspec : (r.spec.diskGroups.map (·.name)).Nodup)
    (hunknown : ∀ other ∈ r.knownGroups before, other.type ≠ some type)
    (hdisk : disk ∈ (devicesAsDisks (r.configuredDevices before type)).map (·.name))
    (hknown : ∀ other ∈ r.knownGroups before, P other)
    (hstandIn : ∀ type' disks, type' ≠ type → P (placeholder type' disks))
    (hmerge : ∀ found other, P other → P (DiskGroupStatus.merge found other))
    (hadded : ∀ sooner found later, r.discovered = sooner ++ found :: later →
      IsNew (applyDiscovered (r.filledGroups before) sooner) found → P found) :
    ∃ front last back, (r.reconcile now before).value.diskGroups = front ++ last :: back ∧
      (∀ other ∈ front ++ back, P other) ∧ last.name = type.keyword ∧ last.Lists disk ∧
      ((∃ found ∈ r.discovered, r.Tells before type found ∧ found.Lists disk) →
        last.SizeIs disk (r.reportedSize disk)) ∧
      ((¬∃ found ∈ r.discovered, r.Tells before type found ∧ found.Lists disk) →
        last.SizeIs disk 0) := by
  obtain ⟨front, back, hfilled, hfront, htypes, hothers⟩ :=
    exists_filledGroups_eq hunknown hdisk
  have htells : ∀ found, r.Tells before type found ↔ Reaches front _ back found :=
    fun found => tells_iff_reaches hfilled hfront
      fun other hother => hothers other (List.mem_append_left back hother)
  rw [hfilled] at hadded
  have hzero : (placeholder type (devicesAsDisks (r.configuredDevices before type))).SizeIs
      disk 0 := by
    intro member hmember _
    obtain ⟨name, -, rfl⟩ := List.mem_map.1 hmember
    rfl
  have hP : ∀ other ∈ front ++ back, P other := by
    intro other hother
    rcases hothers other hother with hmem | ⟨type', disks, hne, rfl⟩
    · exact hknown other hmem
    · exact hstandIn type' disks hne
  obtain ⟨front', last, back', h⟩ := exists_follows (nodup_discovered hspec) htypes
    (fun found hfound => sizeIs_discovered hfound disk) hzero hP (fun found _ => hmerge found)
    hadded
  obtain ⟨-, -, -, hshape, -⟩ := h.shapes
  refine ⟨front', last, back', ?_, h.others, (Prod.mk.inj hshape).1, h.lists.2 hdisk, ?_, ?_⟩
  · rw [diskGroups_reconcile, hfilled, h.value]
  · simp only [htells]
    exact h.told
  · simp only [htells]
    exact h.missed

/-- A pass that restores a carried size carries it on. -/
theorem Restores.carries_reconcile (h : r.Restores before group disk size)
    (hspec : (r.spec.diskGroups.map (·.name)).Nodup) (hsize : size ≠ 0)
    (hcarries : before.Carries group disk size) (hlists : before.Lists group disk) :
    (r.reconcile now before).value.Carries group disk size := by
  have hknown : ∀ other ∈ r.knownGroups before, HasSize group disk size other :=
    hasSize_knownGroups hcarries hlists
  by_cases hstandIn : ∃ type, (∀ other ∈ r.knownGroups before, other.type ≠ some type) ∧
      type.keyword = group ∧
      disk ∈ (devicesAsDisks (r.configuredDevices before type)).map (·.name)
  · obtain ⟨type, hunknown, hkeyword, hdisk⟩ := hstandIn
    obtain ⟨hreported, htold⟩ := h.standIn type hunknown hkeyword hdisk
    have hplaced : ∀ type' disks, type' ≠ type →
        HasSize group disk size (placeholder type' disks) := by
      intro type' disks hne
      exact hasSize_placeholder fun heq => absurd (keyword_inj.1 (heq.trans hkeyword.symm)) hne
    obtain ⟨front, last, back, hvalue, hothers, -, -, hlast, -⟩ :=
      exists_follows_standIn now hspec hunknown hdisk hknown hplaced
        (fun _ _ hother => hother.merge hsize)
        (fun _ _ _ heq hnew => h.hasSize_added heq hnew)
    intro other hother hname
    rw [hvalue] at hother
    rcases List.mem_append.1 hother with hfront | hrest
    · exact hothers other (List.mem_append_left back hfront) hname
    · rcases List.mem_cons.1 hrest with rfl | hback
      · exact hreported ▸ hlast htold
      · exact hothers other (List.mem_append_right front hback) hname
  · intro other hother
    rw [diskGroups_reconcile] at hother
    refine forall_mem_applyDiscovered (fun g hg => ?_) (fun _ _ _ hg => hg.merge hsize)
      (fun _ _ _ heq hnew => h.hasSize_added heq hnew) other hother
    rcases mem_filledGroups hg with hmem | ⟨type, hunknown, rfl⟩
    · exact hknown g hmem
    · exact hasSize_placeholder fun hkeyword hdisk => hstandIn ⟨type, hunknown, hkeyword, hdisk⟩

/-- A stand-in that has the disk ends with a size that is not zero only if it is told that. -/
theorem told_of_carries_reconcile (hspec : (r.spec.diskGroups.map (·.name)).Nodup)
    (hsize : size ≠ 0) (h : (r.reconcile now before).value.Carries group disk size)
    (hunknown : ∀ other ∈ r.knownGroups before, other.type ≠ some type)
    (hkeyword : type.keyword = group)
    (hdisk : disk ∈ (devicesAsDisks (r.configuredDevices before type)).map (·.name)) :
    r.reportedSize disk = size ∧
      ∃ found ∈ r.discovered, r.Tells before type found ∧ found.Lists disk := by
  obtain ⟨front, last, back, hvalue, -, hname, hlists, htold, hmissed⟩ :=
    exists_follows_standIn (P := fun _ => True) now hspec hunknown hdisk
      (fun _ _ => trivial) (fun _ _ _ => trivial) (fun _ _ _ => trivial)
      (fun _ _ _ _ _ => trivial)
  have hmem : last ∈ (r.reconcile now before).value.diskGroups := by
    rw [hvalue]
    exact List.mem_append_right front List.mem_cons_self
  have hlast : last.SizeIs disk size := h last hmem (hname.trans hkeyword)
  by_cases htells : ∃ found ∈ r.discovered, r.Tells before type found ∧ found.Lists disk
  · exact ⟨(htold htells).unique hlast hlists, htells⟩
  · exact absurd (hlast.unique (hmissed htells) hlists) hsize

/-- A discovered group that is added keeps its name, its disk and the reported size to the end of
the pass. -/
theorem reportedSize_of_carries_reconcile
    (h : (r.reconcile now before).value.Carries group disk size)
    {sooner later : List DiskGroupStatus} (heq : r.discovered = sooner ++ found :: later)
    (hnew : IsNew (applyDiscovered (r.filledGroups before) sooner) found)
    (hname : found.name = group) (hlists : found.Lists disk) : r.reportedSize disk = size := by
  have hreported : ∀ next ∈ r.discovered, next.SizeIs disk (r.reportedSize disk) :=
    fun next hnext => sizeIs_discovered hnext disk
  rw [heq] at hreported
  have hfound := hreported found (List.mem_append_right sooner List.mem_cons_self)
  obtain ⟨last, hmem, hlastname, hlastlists, hlast⟩ :
      ∃ last ∈ applyDiscovered (applyDiscovered (r.filledGroups before) sooner ++ [found]) later,
        last.name = group ∧ last.Lists disk ∧ last.SizeIs disk (r.reportedSize disk) := by
    apply exists_mem_applyDiscovered (List.mem_append_right _ (List.mem_singleton_self found))
    · exact ⟨hname, hlists, hfound⟩
    · rintro next hnext g ⟨hgname, hglists, hg⟩
      have hmem := List.mem_append_right sooner (List.mem_cons_of_mem found hnext)
      exact ⟨hgname, lists_merge.2 hglists, hg.merge (hreported next hmem)⟩
  have hafter : last ∈ (r.reconcile now before).value.diskGroups := by
    rw [diskGroups_reconcile, heq, applyDiscovered_of_isNew hnew]
    exact hmem
  exact hlast.unique (h last hafter hlastname) hlastlists

/-- A pass carries a size on exactly if it restores it. -/
theorem carries_reconcile_iff (hspec : (r.spec.diskGroups.map (·.name)).Nodup) (hsize : size ≠ 0)
    (hcarries : before.Carries group disk size) (hlists : before.Lists group disk) :
    (r.reconcile now before).value.Carries group disk size ↔
      r.Restores before group disk size := by
  constructor
  · intro h
    constructor
    · exact fun _ => told_of_carries_reconcile hspec hsize h
    · exact fun _ _ _ => reportedSize_of_carries_reconcile h
  · exact fun h => h.carries_reconcile hspec hsize hcarries hlists

end Reconciler

namespace ClusterSpec

variable {spec : ClusterSpec} {scripts : Diagnostic.Scripts} {status : ClusterStatus}
  {group disk : String} {size : UInt64}

/-- Along a run, as long as a disk stays listed, its recorded size is carried to every snapshot
exactly if every pass restores it. -/
theorem carries_runOver_iff (hspec : (spec.diskGroups.map (·.name)).Nodup)
    (scripts : Diagnostic.Scripts) (hgroups : (status.diskGroups.map (·.name)).Nodup)
    (hdisks : ∀ g ∈ status.diskGroups, (g.disks.map (·.name)).Nodup) (hsize : size ≠ 0)
    (hrecords : status.Records group disk size) {rounds : List Round}
    (hlists : ∀ passed round, passed ++ [round] <+: rounds →
      (spec.runOver scripts status passed).Lists group disk) :
    (∀ passed, passed <+: rounds →
        (spec.runOver scripts status passed).Carries group disk size) ↔
      ∀ passed round, passed ++ [round] <+: rounds →
        (spec.reconcilerAt scripts round).Restores (spec.runOver scripts status passed) group disk
          size := by
  induction rounds using List.reverseRecOn with
  | nil =>
      refine ⟨fun _ passed round hprefix => ?_, fun _ passed hprefix => ?_⟩
      · simp at hprefix
      · rw [List.prefix_nil.1 hprefix]
        exact hrecords.carries hgroups hdisks
  | append_singleton rounds last ih =>
      have hsooner : ∀ {passed}, passed <+: rounds → passed <+: rounds ++ [last] :=
        fun hprefix => hprefix.trans (List.prefix_append rounds [last])
      have hiff := ih fun passed round hprefix => hlists passed round (hsooner hprefix)
      have hpass : (spec.runOver scripts status rounds).Carries group disk size →
          ((spec.runOver scripts status (rounds ++ [last])).Carries group disk size ↔
            (spec.reconcilerAt scripts last).Restores (spec.runOver scripts status rounds) group
              disk size) := by
        intro hcarries
        rw [runOver_concat]
        exact Reconciler.carries_reconcile_iff hspec hsize hcarries
          (hlists rounds last (List.prefix_refl _))
      constructor
      · intro h passed round hprefix
        rcases List.prefix_concat_iff.1 hprefix with heq | hprefix
        · obtain ⟨rfl, hround⟩ := List.append_inj' heq rfl
          obtain rfl := List.singleton_inj.1 hround
          exact (hpass (h passed (List.prefix_append passed _))).1 (h _ (List.prefix_refl _))
        · exact hiff.1 (fun passed hpassed => h passed (hsooner hpassed)) passed round hprefix
      · intro h passed hprefix
        have hall := hiff.2 fun passed round hpassed => h passed round (hsooner hpassed)
        rcases List.prefix_concat_iff.1 hprefix with rfl | hprefix
        · exact (hpass (hall rounds (List.prefix_refl _))).2 (h rounds last (List.prefix_refl _))
        · exact hall passed hprefix

/-- A cluster whose disk for the registry is declared in a group of another name than its type. -/
def registry : ClusterSpec where
  name := "prod"
  topology := .instances [{ name := "racnode" }]
  diskGroups := [{ name := "OCR", type := .crs, disks := ["/dev/sdb"] }]

def registryScripts : Diagnostic.Scripts :=
  Diagnostic.Scripts.mountedAt "/scripts" "python3"

/-- A snapshot with the stand-in for the registry's group, whose disk has a size. -/
def registrySized : ClusterStatus where
  diskGroups := [placeholder .crs [⟨"/dev/sdb", 50, true⟩]]

/-- A pass that finds the node listing another group, its device list as before and no report of a
disk check. -/
def registryRound : Round where
  platform :=
    ((Platform.addNode {} "racnode").respond "racnode-0" "--getasmdiskgroup=true" "DATA").respond
      "racnode-0" ("cat " ++ Diagnostic.envFilePath ++ " | grep " ++ Diagnostic.crsDevicesName)
      "CRS_ASM_DEVICE_LIST=/dev/sdb"
  now := Timestamp.ofUnix 0 0

/-- What the pass leaves of the stand-in. -/
def registryUnsized : DiskGroupStatus :=
  placeholder .crs [⟨"/dev/sdb", 0, true⟩]

theorem carries_runOver_iff_registry :
    (registry.diskGroups.map (·.name)).Nodup ∧ (registrySized.diskGroups.map (·.name)).Nodup ∧
      (∀ g ∈ registrySized.diskGroups, (g.disks.map (·.name)).Nodup) ∧ (50 : UInt64) ≠ 0 ∧
      registrySized.Records "CRS" "/dev/sdb" 50 ∧
      (∀ passed round, passed ++ [round] <+: [registryRound] →
        (registry.runOver registryScripts registrySized passed).Lists "CRS" "/dev/sdb") ∧
      ((∀ passed, passed <+: [registryRound] →
          (registry.runOver registryScripts registrySized passed).Carries "CRS" "/dev/sdb" 50) ↔
        ∀ passed round, passed ++ [round] <+: [registryRound] →
          (registry.reconcilerAt registryScripts round).Restores
            (registry.runOver registryScripts registrySized passed) "CRS" "/dev/sdb" 50) := by
  have hspec : (registry.diskGroups.map (·.name)).Nodup := by
    decide
  have hgroups : (registrySized.diskGroups.map (·.name)).Nodup := by
    decide
  have hdisks : ∀ g ∈ registrySized.diskGroups, (g.disks.map (·.name)).Nodup := by
    decide
  have hrecords : registrySized.Records "CRS" "/dev/sdb" 50 :=
    ⟨_, List.mem_cons_self, rfl, _, List.mem_cons_self, rfl, rfl⟩
  have hlists : ∀ passed round, passed ++ [round] <+: [registryRound] →
      (registry.runOver registryScripts registrySized passed).Lists "CRS" "/dev/sdb" := by
    intro passed round hprefix
    have hlength := hprefix.length_le
    obtain rfl : passed = [] := List.length_eq_zero_iff.1 (by simpa using hlength)
    exact hrecords.lists
  exact ⟨hspec, hgroups, hdisks, by decide, hrecords, hlists,
    carries_runOver_iff hspec registryScripts hgroups hdisks (by decide) hrecords hlists⟩

/-- Not every pass carries a recorded size on to a group that it lists. -/
theorem not_forall_carries :
    ¬∀ (spec : ClusterSpec) (scripts : Diagnostic.Scripts) (status : ClusterStatus) (round : Round)
        (group disk : String) (size : UInt64),
      (spec.diskGroups.map (·.name)).Nodup → (status.diskGroups.map (·.name)).Nodup →
        (∀ g ∈ status.diskGroups, (g.disks.map (·.name)).Nodup) → size ≠ 0 →
          status.Records group disk size →
            (spec.passOver scripts status round).Carries group disk size := by
  intro hall
  have hcarries := hall registry registryScripts registrySized registryRound "CRS" "/dev/sdb" 50
    (by decide) (by decide) (by decide) (by decide)
    ⟨_, List.mem_cons_self, rfl, _, List.mem_cons_self, rfl, rfl⟩
  have hmem : registryUnsized ∈
      (registry.passOver registryScripts registrySized registryRound).diskGroups := by
    decide
  have hsize := hcarries registryUnsized hmem rfl ⟨"/dev/sdb", 0, true⟩ List.mem_cons_self rfl
  exact absurd hsize (by decide)

end ClusterSpec

end ClusterWatch
