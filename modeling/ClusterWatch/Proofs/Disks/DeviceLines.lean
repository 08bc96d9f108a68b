import ClusterWatch.Proofs.Diagnostic.Items
import ClusterWatch.Proofs.Disks.DeviceLists

/-!
Device lists in an output of several lines.

Only commas keep devices apart. Carriage returns are dropped wherever they stand, and line feeds at
the ends of a device, but a line feed inside of one stays. So an output whose list goes on behind
the end of its line gives devices that are no paths, and they are stored and written as they are.
Main statement: `isPath_parseDevices_iff`.
-/

namespace ClusterWatch

namespace Diagnostic

variable {cs : List Char} {output : String} {devices : List String}

/-- A line feed has only blanks before it or only blanks behind it. -/
def OnOneLine (cs : List Char) : Prop :=
  ∀ front back, cs = front ++ '\n' :: back → Text.AllBlank front ∨ Text.AllBlank back

theorem not_mem_trim_iff_onOneLine : '\n' ∉ Text.trim cs ↔ OnOneLine cs := by
  rw [Text.mem_trim_iff (by decide)]
  constructor
  · intro hnone front back heq
    by_contra hboth
    rw [not_or] at hboth
    exact hnone ⟨front, back, heq, hboth.1, hboth.2⟩
  · rintro hone ⟨front, back, heq, hfront, hback⟩
    exact (hone front back heq).elim hfront hback

theorem allBlank_dropReturns_iff : Text.AllBlank (dropReturns cs) ↔ Text.AllBlank cs := by
  constructor
  · intro h c hc
    by_cases hreturn : c = '\r'
    · rw [hreturn]
      decide
    · exact h c (List.mem_filter.2 ⟨hc, decide_eq_true hreturn⟩)
  · exact fun h c hc => h c (List.mem_of_mem_filter hc)

theorem onOneLine_dropReturns_iff : OnOneLine (dropReturns cs) ↔ OnOneLine cs := by
  constructor
  · rintro hone front back rfl
    have hparts : dropReturns (front ++ '\n' :: back) =
        dropReturns front ++ '\n' :: dropReturns back := by
      rw [dropReturns_append]
      rfl
    exact (hone _ _ hparts).imp allBlank_dropReturns_iff.1 allBlank_dropReturns_iff.1
  · intro hone front back heq
    obtain ⟨first, second, rfl, rfl, hsecond⟩ := List.filter_eq_append_iff.1 heq
    obtain ⟨returns, last, rfl, -, -, rfl⟩ := List.filter_eq_cons_iff.1 hsecond
    have hsplit := hone (first ++ returns) last (by rw [List.append_assoc])
    refine hsplit.imp (fun hblank => ?_) allBlank_dropReturns_iff.2
    exact allBlank_dropReturns_iff.2 (List.forall_mem_append.1 hblank).1

theorem commaItems_dropReturns_trim (cs : List Char) :
    commaItems (dropReturns (Text.trim cs)) = commaItems (dropReturns cs) := by
  obtain ⟨before, after, hbefore, hafter, heq⟩ := Text.exists_eq_pad cs
  have hfiller : ∀ part, Text.AllBlank part → IsFiller (· == ',') (dropReturns part) :=
    fun part hpart c hc => Or.inl (hpart c (List.mem_of_mem_filter hc))
  calc
    commaItems (dropReturns (Text.trim cs))
        = commaItems (dropReturns before ++ dropReturns (Text.trim cs) ++ dropReturns after) := by
          rw [commaItems_eq, commaItems_eq, itemsBetween_pad (hfiller _ hbefore) (hfiller _ hafter)]
    _ = commaItems (dropReturns cs) := by
          rw [← dropReturns_append, ← dropReturns_append, ← heq]

/-- The items stay on one line exactly if all between two commas does. -/
theorem not_mem_commaItems_iff : (∀ item ∈ commaItems (dropReturns cs), '\n' ∉ item.toList) ↔
    ∀ part ∈ Text.splitAt ',' cs, OnOneLine part := by
  have hparts : Text.splitAt ',' (dropReturns cs) = (Text.splitAt ',' cs).map dropReturns :=
    Text.splitAt_filter (by decide) cs
  simp only [mem_commaItems_iff, hparts, List.mem_map]
  constructor
  · intro hitems part hpart
    rw [← onOneLine_dropReturns_iff, ← not_mem_trim_iff_onOneLine]
    intro hfeed
    have hchars : (String.ofList (Text.trim (dropReturns part))).toList =
        Text.trim (dropReturns part) := String.toList_ofList
    have hitem : (String.ofList (Text.trim (dropReturns part))).toList ≠ [] ∧
        ∃ piece, (∃ part ∈ Text.splitAt ',' cs, dropReturns part = piece) ∧
          Text.trim piece = (String.ofList (Text.trim (dropReturns part))).toList := by
      rw [hchars]
      exact ⟨List.ne_nil_of_mem hfeed, dropReturns part, ⟨part, hpart, rfl⟩, rfl⟩
    apply hitems _ hitem
    rw [hchars]
    exact hfeed
  · rintro hone item ⟨-, _, ⟨part, hpart, rfl⟩, htrim⟩
    rw [← htrim, not_mem_trim_iff_onOneLine, onOneLine_dropReturns_iff]
    exact hone part hpart

end Diagnostic

namespace Disks

open Diagnostic

variable {groups : List DiskGroupStatus} {type : DiskGroupType} {devices : List String}

/-- The list of a type's devices is one line if each of the devices is. -/
theorem not_mem_devicesByType_iff (hne : devices ≠ []) (h : ∀ device ∈ devices, IsDevice device)
    (hone : groups.countP (·.type = some type) ≤ 1) :
    '\n' ∉ (devicesByType (setDevices groups type devices) type).toList ↔
      ∀ device ∈ devices, '\n' ∉ device.toList := by
  rw [devicesByType_setDevices hne (fun device hdevice => (h device hdevice).toIsItem) hone,
    String.toList_intercalate]
  constructor
  · intro hnone device hdevice hfeed
    exact hnone (Text.mem_intercalate (List.mem_map_of_mem hdevice) hfeed)
  · intro hdevices hfeed
    rcases Text.of_mem_intercalate hfeed with hcomma | ⟨piece, hpiece, hmem⟩
    · exact absurd hcomma (by decide)
    · obtain ⟨device, hdevice, rfl⟩ := List.mem_map.1 hpiece
      exact hdevices device hdevice hmem

/-- What is read from an output is never empty, has no blanks at its ends and holds no comma and no
carriage return. It holds no line feed, so that the disks that are stored and the list that is
written stay on one line, exactly if no item of the list goes on behind the end of its line. -/
theorem isPath_parseDevices_iff {pod output : String}
    (h : parseDevices pod output = .ok devices) :
    (∀ device ∈ devices, IsDevice device) ∧
      (∃ name value, '=' ∉ name.toList ∧ output = name ++ "=" ++ value ∧
        ((∀ device ∈ devices, IsPath device) ↔
          ∀ part ∈ Text.splitAt ',' value.toList, OnOneLine part)) ∧
      ∀ (groups : List DiskGroupStatus) (type : DiskGroupType), devices ≠ [] →
        groups.countP (·.type = some type) ≤ 1 →
          let stored : List DiskGroupStatus := setDevices groups type devices
          ((stored.filter (·.type = some type)).flatMap (·.disks)).map (·.name) = devices ∧
            ('\n' ∉ (devicesByType stored type).toList ↔ ∀ device ∈ devices, IsPath device) := by
  have hread := parseDevices_eq_ok_iff.1 h
  have hdevices := isDevice_of_mem hread
  have hpath : (∀ device ∈ devices, IsPath device) ↔ ∀ device ∈ devices, '\n' ∉ device.toList :=
    forall₂_congr fun device hdevice => ⟨IsPath.lineFeed, IsPath.mk (hdevices device hdevice)⟩
  refine ⟨hdevices, ?_, fun groups type hne hone => ⟨?_, ?_⟩⟩
  · obtain ⟨before, value, hcut, rfl⟩ := devicesOf?_eq_some_iff.1 hread
    obtain ⟨houtput, hbefore⟩ := Text.eq_of_cutFirst hcut
    refine ⟨String.ofList before, String.ofList value, ?_, ?_, ?_⟩
    · rwa [String.toList_ofList]
    · rw [← String.toList_inj, houtput]
      simp
    · rw [hpath, commaItems_dropReturns_trim, not_mem_commaItems_iff, String.toList_ofList]
  · have hitems : ∀ device ∈ devices, IsItem device := fun device hdevice =>
      (hdevices device hdevice).toIsItem
    rw [flatMap_disks_setDevices (devicesAsDisks_ne_nil hne hitems) hone,
      devicesAsDisks_eq_map hitems, List.map_map]
    exact map_eq_self fun _ _ => rfl
  · rw [hpath, not_mem_devicesByType_iff hne hdevices hone]

theorem isPath_parseDevices_iff_twoLines :
    parseDevices "racnode-0" "A=/dev/b,\r\n/dev/c=d\n" = .ok ["/dev/b", "/dev/c=d"] ∧
      (∀ device ∈ ["/dev/b", "/dev/c=d"], IsPath device) ∧
        '\n' ∉ (devicesByType (setDevices [] .crs ["/dev/b", "/dev/c=d"]) .crs).toList := by
  have hread : parseDevices "racnode-0" "A=/dev/b,\r\n/dev/c=d\n" = .ok ["/dev/b", "/dev/c=d"] := by
    decide
  obtain ⟨hdevices, -, hstored⟩ := isPath_parseDevices_iff hread
  have hfeeds : ∀ device ∈ ["/dev/b", "/dev/c=d"], '\n' ∉ device.toList := by
    decide
  have hpaths : ∀ device ∈ ["/dev/b", "/dev/c=d"], IsPath device := fun device hdevice =>
    ⟨hdevices device hdevice, hfeeds device hdevice⟩
  obtain ⟨-, hline⟩ := hstored [] .crs (List.cons_ne_nil _ _) (Nat.zero_le 1)
  exact ⟨hread, hpaths, hline.2 hpaths⟩

/-- Not every device is a path: the last device of one line takes in the next line that matches. -/
theorem not_forall_isPath : ¬∀ (pod output : String) (devices : List String),
    parseDevices pod output = .ok devices → ∀ device ∈ devices, IsPath device := by
  intro hall
  have hread : parseDevices "racnode-0"
      "CRS_ASM_DEVICE_LIST=/dev/sdb\nexport CRS_ASM_DEVICE_LIST\n" =
        .ok ["/dev/sdb\nexport CRS_ASM_DEVICE_LIST"] := by
    decide
  exact (hall _ _ _ hread _ List.mem_cons_self).lineFeed (by decide)

end Disks

end ClusterWatch
