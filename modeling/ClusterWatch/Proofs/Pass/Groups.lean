import ClusterWatch.Pass.Reconcile
import ClusterWatch.Proofs.Disks.Discovery

/-!
Where the disk groups of a snapshot come from.

A pass starts from the groups that its source node lists, or else from those known so far. Behind
them it puts stand-ins for the two types that the node is configured with devices for and none of
the groups has. The discovered groups are then merged into these, or added.
-/

namespace ClusterWatch

open Disks

namespace Console

/-- The groups that a pod lists, with the sizes recorded so far. -/
def listed (c : Console) (pod : String) (spec : ClusterSpec) (previous : List DiskGroupStatus) :
    List DiskGroupStatus :=
  (c.diskGroups pod).value.map fun name =>
    listedGroup spec previous name (c.disks pod name).value (c.redundancy pod name).value

theorem value_aggregateGroups (c : Console) (pod : String) (spec : ClusterSpec)
    (previous : List DiskGroupStatus) :
    (c.aggregateGroups pod spec previous).value = c.listed pod spec previous := by
  have hlist : ∀ names, (c.listGroups pod spec previous names).value = names.map fun name =>
      listedGroup spec previous name (c.disks pod name).value (c.redundancy pod name).value := by
    intro names
    induction names with
    | nil => rfl
    | cons name names ih =>
        rw [listGroups]
        simp only [Journal.value_bind, Journal.value_pure, ih, List.map_cons]
  exact hlist (c.diskGroups pod).value

theorem map_name_listed (c : Console) (pod : String) (spec : ClusterSpec)
    (previous : List DiskGroupStatus) :
    (c.listed pod spec previous).map (·.name) = (c.diskGroups pod).value := by
  rw [listed, List.map_map]
  exact List.map_id _

end Console

namespace Reconciler

/-- The pod that a pass asks for cluster-wide facts. -/
def sourcePod (r : Reconciler) (before : ClusterStatus) : Option String :=
  (sourceOf (r.foldPhases before.nodes r.probedPhases).value).map fun source => podOf source.name

/-- The groups that a pass starts from. -/
def knownGroups (r : Reconciler) (before : ClusterStatus) : List DiskGroupStatus :=
  match r.sourcePod before with
  | some pod =>
    let listed := (r.console.aggregateGroups pod r.spec before.diskGroups).value
    if listed.isEmpty then before.diskGroups else listed
  | none => before.diskGroups

/-- The names of the groups that the source node lists to a pass. -/
def listing (r : Reconciler) (before : ClusterStatus) : List String :=
  match r.sourcePod before with
  | some pod => (r.console.diskGroups pod).value
  | none => []

/-- The devices that the source node is configured with for a type, none if they are not known. -/
def configuredDevices (r : Reconciler) (before : ClusterStatus) (type : DiskGroupType) :
    List String :=
  match r.sourcePod before with
  | some pod =>
    match type with
    | .crs => (r.console.crsDeviceList pod).value.toOption.getD []
    | .dbData => (r.console.dbDeviceList pod).value.toOption.getD []
    | _ => []
  | none => []

/-- The stand-in for a type, if there is one. -/
def standIn (known : List DiskGroupStatus) (type : DiskGroupType) (devices : List String) :
    List DiskGroupStatus :=
  if known.any (·.type = some type) || (devicesAsDisks devices).isEmpty then []
  else [placeholder type (devicesAsDisks devices)]

/-- The groups that discovered ones are merged into. -/
def filledGroups (r : Reconciler) (before : ClusterStatus) : List DiskGroupStatus :=
  let known := r.knownGroups before
  known ++ (standIn known .crs (r.configuredDevices before .crs) ++
    standIn known .dbData (r.configuredDevices before .dbData))

/-- The groups that the disk check's reports tell of, none if two members of one differ. -/
def discovered (r : Reconciler) : List DiskGroupStatus :=
  match r.console.reportedDisks r.spec with
  | some reports => (discoveredGroups r.spec reports).toOption.getD []
  | none => []

/-- The size that the disk check reports first of a disk, or zero. -/
def reportedSize (r : Reconciler) (disk : String) : UInt64 :=
  Disks.reportedSize ((r.console.reportedDisks r.spec).getD []) disk

variable {r : Reconciler} {before : ClusterStatus} {now : Timestamp}

section listing

variable {pod : String}

/-- No node lists a group to the pass. -/
def Unlisted (r : Reconciler) (before : ClusterStatus) : Prop :=
  ∀ pod, r.sourcePod before = some pod → (r.console.diskGroups pod).value = []

theorem knownGroups_of_unlisted (h : r.Unlisted before) :
    r.knownGroups before = before.diskGroups := by
  rw [knownGroups]
  cases hsource : r.sourcePod before with
  | none => rfl
  | some pod =>
      simp only [Console.value_aggregateGroups, Console.listed, h pod hsource, List.map_nil,
        List.isEmpty_nil, ↓reduceIte]

theorem knownGroups_of_listed (hsource : r.sourcePod before = some pod)
    (hlisted : (r.console.diskGroups pod).value ≠ []) :
    r.knownGroups before = r.console.listed pod r.spec before.diskGroups := by
  rw [knownGroups, hsource]
  simp only [Console.value_aggregateGroups]
  rw [if_neg]
  rw [List.isEmpty_iff, Console.listed, List.map_eq_nil_iff]
  exact hlisted

theorem listing_of_source (hsource : r.sourcePod before = some pod) :
    r.listing before = (r.console.diskGroups pod).value := by
  rw [listing, hsource]

theorem unlisted_iff : r.Unlisted before ↔ r.listing before = [] := by
  rw [listing, Unlisted]
  cases r.sourcePod before <;> simp

theorem exists_source_of_listing (h : r.listing before ≠ []) :
    ∃ pod, r.sourcePod before = some pod ∧ (r.console.diskGroups pod).value ≠ [] := by
  rw [listing] at h
  cases hsource : r.sourcePod before with
  | none =>
      rw [hsource] at h
      exact absurd rfl h
  | some pod =>
      rw [hsource] at h
      exact ⟨pod, rfl, h⟩

/-- A pass starts from the groups before, or from those that its source node lists. -/
theorem knownGroups_cases (r : Reconciler) (before : ClusterStatus) :
    (r.listing before = [] ∧ r.knownGroups before = before.diskGroups) ∨
      ∃ pod, r.sourcePod before = some pod ∧ (r.console.diskGroups pod).value ≠ [] ∧
        r.knownGroups before = r.console.listed pod r.spec before.diskGroups := by
  by_cases hlisting : r.listing before = []
  · exact Or.inl ⟨hlisting, knownGroups_of_unlisted (unlisted_iff.2 hlisting)⟩
  · obtain ⟨pod, hsource, hlisted⟩ := exists_source_of_listing hlisting
    exact Or.inr ⟨pod, hsource, hlisted, knownGroups_of_listed hsource hlisted⟩

end listing

theorem value_fillType (type : DiskGroupType)
    (devices : Journal (Except ExecError (List String))) (groups : List DiskGroupStatus) :
    (Console.fillType type devices groups).value =
      groups ++ standIn groups type (devices.value.toOption.getD []) := by
  rw [Console.fillType, standIn]
  cases hany : groups.any (·.type = some type) with
  | true => simp
  | false =>
      simp only [Bool.false_eq_true, ↓reduceIte, Journal.value_bind, Bool.false_or]
      cases devices.value with
      | error e => simp [Except.toOption, devicesAsDisks]
      | ok names =>
          simp only [Journal.value_pure, setDevices, hany, Bool.false_eq_true, ↓reduceIte,
            Except.toOption, Option.getD_some]
          split <;> simp_all

theorem mem_standIn_iff {known : List DiskGroupStatus} {type : DiskGroupType}
    {devices : List String} {group : DiskGroupStatus} :
    group ∈ standIn known type devices ↔
      (∀ other ∈ known, other.type ≠ some type) ∧ devicesAsDisks devices ≠ [] ∧
        group = placeholder type (devicesAsDisks devices) := by
  rw [standIn]
  split
  · next hnone =>
      have habsent : (∃ other ∈ known, other.type = some type) ∨ devicesAsDisks devices = [] := by
        simpa using hnone
      constructor
      · exact nofun
      · rintro ⟨huntyped, hdevices, -⟩
        rcases habsent with ⟨other, hother, htype⟩ | hempty
        · exact absurd htype (huntyped other hother)
        · exact absurd hempty hdevices
  · next hsome =>
      have hpresent : (∀ other ∈ known, other.type ≠ some type) ∧ devicesAsDisks devices ≠ [] := by
        simpa using hsome
      rw [List.mem_singleton]
      exact ⟨fun h => ⟨hpresent.1, hpresent.2, h⟩, fun h => h.2.2⟩

theorem mem_standIn {known : List DiskGroupStatus} {type : DiskGroupType} {devices : List String}
    {group : DiskGroupStatus} (h : group ∈ standIn known type devices) :
    group = placeholder type (devicesAsDisks devices) :=
  (mem_standIn_iff.1 h).2.2

/-- A stand-in for one type does not make a group of another known. -/
theorem any_type_append_standIn {known : List DiskGroupStatus} {type other : DiskGroupType}
    (hne : other ≠ type) (others : List String) :
    (known ++ standIn known other others).any (·.type = some type) =
      known.any (·.type = some type) := by
  rw [List.any_append, Bool.or_eq_left_iff_imp, List.any_eq_true]
  rintro ⟨group, hgroup, htype⟩
  rw [mem_standIn hgroup] at htype
  simp [placeholder, hne] at htype

theorem standIn_append_standIn {known : List DiskGroupStatus} {type other : DiskGroupType}
    (hne : other ≠ type) (devices others : List String) :
    standIn (known ++ standIn known other others) type devices = standIn known type devices := by
  have hany : (known ++ standIn known other others).any (·.type = some type) =
      known.any (·.type = some type) := any_type_append_standIn hne others
  generalize known ++ standIn known other others = filled at hany
  rw [standIn, standIn, hany]

theorem value_fillConfigured (c : Console) (pod : String) (groups : List DiskGroupStatus) :
    (c.fillConfigured pod groups).value =
      groups ++ (standIn groups .crs ((c.crsDeviceList pod).value.toOption.getD []) ++
        standIn groups .dbData ((c.dbDeviceList pod).value.toOption.getD [])) := by
  rw [Console.fillConfigured]
  simp only [Journal.value_bind, value_fillType]
  rw [standIn_append_standIn (by decide), List.append_assoc]

theorem value_recordSizes (groups : List DiskGroupStatus) :
    (r.console.recordSizes r.spec groups).value = applyDiscovered groups r.discovered := by
  rw [Console.recordSizes, Console.see_bind, discovered]
  cases r.console.reportedDisks r.spec with
  | none => rfl
  | some reports =>
      simp only
      cases discoveredGroups r.spec reports <;> rfl

theorem diskGroups_reconcile :
    (r.reconcile now before).value.diskGroups =
      applyDiscovered (r.filledGroups before) r.discovered := by
  have hfacts : (r.clusterFacts before (r.foldPhases before.nodes r.probedPhases).value).value.1 =
      r.filledGroups before := by
    rw [clusterFacts, filledGroups, knownGroups]
    unfold configuredDevices sourcePod
    cases sourceOf (r.foldPhases before.nodes r.probedPhases).value with
    | none => simp [standIn, devicesAsDisks]
    | some source =>
        simp only [sourceFacts, Journal.value_bind, Journal.value_pure, value_fillConfigured,
          Option.map_some]
  rw [← hfacts, ← value_recordSizes]
  rfl

section discovered

theorem discovered_cases (r : Reconciler) :
    r.discovered = [] ∨ ∃ reports, r.console.reportedDisks r.spec = some reports ∧
      discoveredGroups r.spec reports = .ok r.discovered := by
  rw [discovered]
  cases hreports : r.console.reportedDisks r.spec with
  | none => exact Or.inl rfl
  | some reports =>
      simp only
      cases hgroups : discoveredGroups r.spec reports with
      | error e => exact Or.inl rfl
      | ok groups => exact Or.inr ⟨reports, rfl, hgroups⟩

theorem nodup_discovered (hspec : (r.spec.diskGroups.map (·.name)).Nodup) :
    (r.discovered.map (·.name)).Nodup := by
  rcases r.discovered_cases with hnone | ⟨reports, -, hgroups⟩
  · rw [hnone]
    exact List.nodup_nil
  · exact nodup_discoveredGroups hspec hgroups

theorem sizeIs_discovered {found : DiskGroupStatus} (hfound : found ∈ r.discovered)
    (disk : String) : found.SizeIs disk (r.reportedSize disk) := by
  rcases r.discovered_cases with hnone | ⟨reports, hreports, hgroups⟩
  · rw [hnone] at hfound
    cases hfound
  · rw [reportedSize, hreports]
    exact sizeIs_discoveredGroups hgroups hfound disk

end discovered

section standIns

/-- A pass fills in a stand-in for a type: no known group has it, and the node is configured with
devices for it. -/
structure FillsIn (r : Reconciler) (before : ClusterStatus) (type : DiskGroupType) : Prop where
  untyped : ∀ group ∈ r.knownGroups before, group.type ≠ some type
  configured : devicesAsDisks (r.configuredDevices before type) ≠ []

def standIns (r : Reconciler) (before : ClusterStatus) : List DiskGroupStatus :=
  standIn (r.knownGroups before) .crs (r.configuredDevices before .crs) ++
    standIn (r.knownGroups before) .dbData (r.configuredDevices before .dbData)

variable {type : DiskGroupType} {disk : String} {group : DiskGroupStatus}

theorem filledGroups_eq (r : Reconciler) (before : ClusterStatus) :
    r.filledGroups before = r.knownGroups before ++ r.standIns before :=
  rfl

theorem FillsIn.type_eq (h : r.FillsIn before type) : type = .crs ∨ type = .dbData := by
  have hconfigured := h.configured
  cases type with
  | crs => exact Or.inl rfl
  | dbData => exact Or.inr rfl
  | dbRecovery | redo | others =>
      unfold configuredDevices at hconfigured
      split at hconfigured <;> exact absurd rfl hconfigured

theorem mem_standIns_iff : group ∈ r.standIns before ↔ ∃ type, r.FillsIn before type ∧
    group = placeholder type (devicesAsDisks (r.configuredDevices before type)) := by
  rw [standIns, List.mem_append, mem_standIn_iff, mem_standIn_iff]
  constructor
  · rintro (⟨huntyped, hconfigured, hgroup⟩ | ⟨huntyped, hconfigured, hgroup⟩)
    · exact ⟨.crs, ⟨huntyped, hconfigured⟩, hgroup⟩
    · exact ⟨.dbData, ⟨huntyped, hconfigured⟩, hgroup⟩
  · rintro ⟨type, hfills, hgroup⟩
    rcases hfills.type_eq with rfl | rfl
    · exact Or.inl ⟨hfills.untyped, hfills.configured, hgroup⟩
    · exact Or.inr ⟨hfills.untyped, hfills.configured, hgroup⟩

theorem keyword_inj {type other : DiskGroupType} : type.keyword = other.keyword ↔ type = other := by
  constructor
  · intro h
    have hoption := congrArg DiskGroupType.ofKeyword? h
    rw [DiskGroupType.ofKeyword?_keyword, DiskGroupType.ofKeyword?_keyword] at hoption
    exact Option.some.inj hoption
  · exact congrArg _

/-- A group that discovered ones are merged into is known, or stands in for a type that no known
group has. -/
theorem mem_filledGroups (h : group ∈ r.filledGroups before) :
    group ∈ r.knownGroups before ∨
      ∃ type, (∀ other ∈ r.knownGroups before, other.type ≠ some type) ∧
        group = placeholder type (devicesAsDisks (r.configuredDevices before type)) := by
  rcases List.mem_append.1 h with hknown | hstandIn
  · exact Or.inl hknown
  · obtain ⟨type, hfills, hgroup⟩ := mem_standIns_iff.1 hstandIn
    exact Or.inr ⟨type, hfills.untyped, hgroup⟩

theorem standIn_of_mem {known : List DiskGroupStatus} {devices : List String}
    (hunknown : ∀ group ∈ known, group.type ≠ some type)
    (hdisk : disk ∈ (devicesAsDisks devices).map (·.name)) :
    standIn known type devices = [placeholder type (devicesAsDisks devices)] := by
  have hany : known.any (·.type = some type) = false := by
    simpa using hunknown
  have hempty : (devicesAsDisks devices).isEmpty = false := by
    rw [List.isEmpty_eq_false_iff]
    rintro heq
    rw [heq] at hdisk
    cases hdisk
  rw [standIn, hany, hempty]
  rfl

/-- A configured disk of a type that no known group has is in a stand-in. The known groups are in
front of it, no group in front is of the type, and all other groups are known or stand in for other
types. -/
theorem exists_filledGroups_eq (hunknown : ∀ group ∈ r.knownGroups before, group.type ≠ some type)
    (hdisk : disk ∈ (devicesAsDisks (r.configuredDevices before type)).map (·.name)) :
    ∃ front back, r.filledGroups before =
        front ++ placeholder type (devicesAsDisks (r.configuredDevices before type)) :: back ∧
      (∀ other ∈ r.knownGroups before, other ∈ front) ∧
      (∀ other ∈ front, other.type ≠ some type) ∧
      ∀ other ∈ front ++ back, other ∈ r.knownGroups before ∨
        ∃ type' disks, type' ≠ type ∧ other = placeholder type' disks := by
  cases type with
  | crs =>
      refine ⟨r.knownGroups before, standIn (r.knownGroups before) .dbData
        (r.configuredDevices before .dbData), ?_, fun _ hother => hother, hunknown,
        fun other hother => ?_⟩
      · rw [filledGroups, standIn_of_mem hunknown hdisk]
        rfl
      · rcases List.mem_append.1 hother with hknown | hstandIn
        · exact Or.inl hknown
        · exact Or.inr ⟨.dbData, _, by decide, mem_standIn hstandIn⟩
  | dbData =>
      let front := r.knownGroups before ++
        standIn (r.knownGroups before) .crs (r.configuredDevices before .crs)
      have hfront : ∀ other ∈ front, other ∈ r.knownGroups before ∨
          ∃ type' disks, type' ≠ .dbData ∧ other = placeholder type' disks := by
        intro other hother
        rcases List.mem_append.1 hother with hknown | hstandIn
        · exact Or.inl hknown
        · exact Or.inr ⟨.crs, _, by decide, mem_standIn hstandIn⟩
      refine ⟨front, [], ?_, fun _ hother => List.mem_append_left _ hother,
        fun other hother => ?_, (List.append_nil front).symm ▸ hfront⟩
      · rw [filledGroups, standIn_of_mem hunknown hdisk, List.append_assoc]
      · rcases hfront other hother with hknown | ⟨type', disks, hne, rfl⟩
        · exact hunknown other hknown
        · simpa [placeholder] using hne
  | dbRecovery | redo | others =>
      unfold configuredDevices at hdisk
      split at hdisk <;> simp [devicesAsDisks] at hdisk

end standIns

end Reconciler

end ClusterWatch
