import ClusterWatch.Disks.Groups
import ClusterWatch.Proofs.Diagnostic.Devices

/-!
Device lists through the disk groups and back.

The devices that a node is configured with become the disks of the group of a type, and the valid
disks of a type are written as the list of devices again. In between nothing is lost or changed, and
the groups of other types keep their disks and their places.
Main statement: `devices_read_back`.
-/

namespace ClusterWatch.Disks

open Diagnostic

variable {groups : List DiskGroupStatus} {group : DiskGroupStatus} {type other : DiskGroupType}
  {devices : List String} {place : Nat}

theorem devicesAsDisks_eq_map (h : ∀ device ∈ devices, IsItem device) :
    devicesAsDisks devices = devices.map fun name => ⟨name, 0, true⟩ := by
  have htrimmed : devices.map Text.trimmed = devices := by
    apply map_eq_self
    intro device hdevice
    rw [Text.trimmed, (h device hdevice).trimmed.trim_eq, String.ofList_toList]
  have hkept : devices.filter (· ≠ "") = devices := by
    rw [List.filter_eq_self]
    intro device hdevice
    rw [decide_eq_true_eq]
    rintro rfl
    exact (h "" hdevice).ne_nil rfl
  rw [devicesAsDisks, htrimmed, hkept]

theorem devicesAsDisks_ne_nil (hne : devices ≠ []) (h : ∀ device ∈ devices, IsItem device) :
    devicesAsDisks devices ≠ [] := by
  rw [devicesAsDisks_eq_map h]
  exact mt List.map_eq_nil_iff.1 hne

/-- Devices change one group of the type in its place, or add one. -/
theorem setDevices_cases (groups : List DiskGroupStatus) (type : DiskGroupType)
    (h : devicesAsDisks devices ≠ []) :
    ((∃ group ∈ groups, group.type = some type) ∧
        setDevices groups type devices =
          modifyFirst (·.type = some type)
            (fun group => { group with disks := devicesAsDisks devices }) groups) ∨
      ((∀ group ∈ groups, group.type ≠ some type) ∧
        setDevices groups type devices =
          groups ++ [placeholder type (devicesAsDisks devices)]) := by
  rw [setDevices]
  simp only [List.isEmpty_iff, h, if_false]
  split
  · next hany => exact Or.inl ⟨by simpa using hany, rfl⟩
  · next hany => exact Or.inr ⟨by simpa using hany, rfl⟩

/-- A view of the groups of other types does not change. -/
theorem filter_setDevices {p : DiskGroupStatus → Bool} (h : devicesAsDisks devices ≠ [])
    (hp : ∀ group, group.type = some type → p group = false) :
    (setDevices groups type devices).filter p = groups.filter p := by
  rcases setDevices_cases groups type h with ⟨-, heq⟩ | ⟨-, heq⟩
  · rw [heq]
    apply filter_modifyFirst_of_not
    intro group hgroup
    have htype : group.type = some type := of_decide_eq_true hgroup
    exact ⟨hp group htype, hp _ htype⟩
  · have hadded : p (placeholder type (devicesAsDisks devices)) = false := hp _ rfl
    rw [heq, List.filter_append, List.filter_singleton, hadded, cond_false, List.append_nil]

/-- A group that satisfies a test, as at most one does, is all that passes it. -/
theorem filter_eq_singleton {p : DiskGroupStatus → Bool} (hmem : group ∈ groups)
    (hgroup : p group = true) (hone : groups.countP p ≤ 1) : groups.filter p = [group] := by
  have hin : group ∈ groups.filter p := List.mem_filter.2 ⟨hmem, hgroup⟩
  rw [List.countP_eq_length_filter] at hone
  obtain ⟨only, honly⟩ :=
    List.length_eq_one_iff.1 (Nat.le_antisymm hone (List.length_pos_of_mem hin))
  rw [honly] at hin ⊢
  rw [List.mem_singleton.1 hin]

/-- The one group of the type has the devices as its disks. -/
theorem flatMap_disks_setDevices (h : devicesAsDisks devices ≠ [])
    (hone : groups.countP (·.type = some type) ≤ 1) :
    ((setDevices groups type devices).filter (·.type = some type)).flatMap (·.disks) =
      devicesAsDisks devices := by
  rcases setDevices_cases groups type h with ⟨⟨group, hmem, htype⟩, heq⟩ | ⟨hnone, heq⟩
  · have honly : groups.filter (·.type = some type) = [group] :=
      filter_eq_singleton hmem (decide_eq_true htype) hone
    have hkept : ∀ group : DiskGroupStatus, decide (group.type = some type) = true →
        decide (group.type = some type) = true ∧
          decide ({ group with disks := devicesAsDisks devices }.type = some type) = true :=
      fun _ hgroup => ⟨hgroup, hgroup⟩
    rw [heq, filter_modifyFirst hkept, honly, modifyFirst, if_pos (decide_eq_true htype),
      List.flatMap_singleton]
  · have hfilter : groups.filter (·.type = some type) = [] := by
      simpa using hnone
    have hadded : [placeholder type (devicesAsDisks devices)].filter (·.type = some type) =
        [placeholder type (devicesAsDisks devices)] :=
      List.filter_cons_of_pos (decide_eq_true rfl)
    rw [heq, List.filter_append, hfilter, hadded, List.nil_append, List.flatMap_singleton]
    rfl

/-- The devices of the type are written as they were stored. -/
theorem devicesByType_setDevices (hne : devices ≠ []) (h : ∀ device ∈ devices, IsItem device)
    (hone : groups.countP (·.type = some type) ≤ 1) :
    devicesByType (setDevices groups type devices) type = ",".intercalate devices := by
  have hdisks := devicesAsDisks_ne_nil hne h
  have hnames : ((devicesAsDisks devices).filter (·.valid)).map (·.name) = devices := by
    have hvalid : (devices.map fun name => (⟨name, 0, true⟩ : DiskStatus)).filter (·.valid) =
        devices.map fun name => ⟨name, 0, true⟩ :=
      List.filter_eq_self.2 (List.forall_mem_map.2 fun _ _ => rfl)
    rw [devicesAsDisks_eq_map h, hvalid, List.map_map]
    exact map_eq_self fun _ _ => rfl
  rw [devicesByType, flatMap_disks_setDevices hdisks hone, hnames]

theorem devicesByType_setDevices_of_ne (h : devicesAsDisks devices ≠ []) (hother : other ≠ type) :
    devicesByType (setDevices groups type devices) other = devicesByType groups other := by
  have hnot : ∀ group : DiskGroupStatus, group.type = some type →
      decide (group.type = some other) = false := by
    intro group hgroup
    rw [hgroup, decide_eq_false_iff_not, Option.some.injEq]
    exact Ne.symm hother
  rw [devicesByType, filter_setDevices h hnot, devicesByType]

/-- A group of another type is where it was, as it was. -/
theorem getElem?_setDevices (h : devicesAsDisks devices ≠ []) (hget : groups[place]? = some group)
    (htype : group.type ≠ some type) : (setDevices groups type devices)[place]? = some group := by
  rcases setDevices_cases groups type h with ⟨-, heq⟩ | ⟨-, heq⟩
  · rw [heq]
    exact getElem?_modifyFirst_of_not hget (decide_eq_false htype) _
  · rw [heq, List.getElem?_append_left (List.getElem?_eq_some_iff.1 hget).1, hget]

/-- Devices that were read from a node's environment file and are stored for a type are written back
so that the line with any name is read as the same devices. At most one group is of the type; the
others are what they were and where they were, and so are their devices. -/
theorem devices_read_back {pod output name rest : String}
    (h : parseDevices pod output = .ok devices) (hne : devices ≠ []) (hname : '=' ∉ name.toList)
    (hrest : Text.AllBlank rest.toList) (hone : groups.countP (·.type = some type) ≤ 1) :
    let stored : List DiskGroupStatus := setDevices groups type devices
    (∀ pod, parseDevices pod (name ++ "=" ++ devicesByType stored type ++ rest) = .ok devices) ∧
      (∀ other, other ≠ type → devicesByType stored other = devicesByType groups other) ∧
      (stored.filter fun group => group.type ≠ some type) =
        (groups.filter fun group => group.type ≠ some type) ∧
      ∀ (place : Nat) (group : DiskGroupStatus), groups[place]? = some group →
        group.type ≠ some type → stored[place]? = some group := by
  intro stored
  have hdevices := isDevice_of_mem (parseDevices_eq_ok_iff.1 h)
  have hitems : ∀ device ∈ devices, IsItem device := fun device hdevice =>
    (hdevices device hdevice).toIsItem
  have hdisks : devicesAsDisks devices ≠ [] := by
    rw [devicesAsDisks_eq_map hitems]
    exact mt List.map_eq_nil_iff.1 hne
  refine ⟨fun pod => ?_, fun other => devicesByType_setDevices_of_ne hdisks,
    filter_setDevices hdisks fun group htype => ?_, fun place group => getElem?_setDevices hdisks⟩
  · rw [devicesByType_setDevices hne hitems hone]
    exact parseDevices_eq_ok_iff.2 (devicesOf?_line hname hne hdevices hrest)
  · rw [decide_eq_false_iff_not]
    exact not_not_intro htype

/-- Groups of two types, with one device each. -/
def twoGroups : List DiskGroupStatus :=
  [placeholder .redo [⟨"/dev/sda", 50, true⟩], placeholder .crs [⟨"/dev/old", 50, true⟩]]

theorem devices_read_back_twoGroups :
    parseDevices "racnode-0" "A=\r/dev/b=1, \r\n/dev/c d,,\r\n" = .ok ["/dev/b=1", "/dev/c d"] ∧
      let stored : List DiskGroupStatus := setDevices twoGroups .crs ["/dev/b=1", "/dev/c d"]
      parseDevices "racnode-1"
            ("CRS_ASM_DEVICE_LIST" ++ "=" ++ devicesByType stored .crs ++ "\r\n") =
          .ok ["/dev/b=1", "/dev/c d"] ∧
        devicesByType stored .redo = devicesByType twoGroups .redo := by
  have hread : parseDevices "racnode-0" "A=\r/dev/b=1, \r\n/dev/c d,,\r\n" =
      .ok ["/dev/b=1", "/dev/c d"] := by
    decide
  have hname : '=' ∉ "CRS_ASM_DEVICE_LIST".toList := by
    decide
  have hblank : Text.AllBlank "\r\n".toList := by
    decide
  have hone : twoGroups.countP (·.type = some .crs) ≤ 1 := by
    decide
  obtain ⟨hback, hothers, -⟩ :=
    devices_read_back hread (List.cons_ne_nil _ _) hname hblank hone
  exact ⟨hread, hback "racnode-1", hothers .redo (by decide)⟩

end ClusterWatch.Disks
