import ClusterWatch.Proofs.Disks.Matching
import Mathlib.Data.List.Nodup

/-!
Merging discovered groups only adds to what is known, and merging them again adds nothing.

Groups stay in their places and disks learn what is reported of them; a discovered group that is
matched to none before it is added behind them. A second time every discovered group is matched to
the same place, and the added ones to themselves. So it can change an added group only if the
discovered one tells a disk of its own something new, which takes two entries of one disk. Main
statement: `onlyAdds_applyDiscovered`.
-/

namespace ClusterWatch.Disks

/-- The group has the outline of the other, and its disks have learned what was reported. -/
structure LearnsFrom (told : List DiskGroupStatus) (old new : DiskGroupStatus) : Prop where
  outline : new.outline = old.outline
  disks : List.Forall₂ (fun disk disk' => Learns (reportsOf told disk.name) disk disk')
    old.disks new.disks

/-- What is left of the groups, and what is there besides, when discovered ones are merged. -/
structure OnlyAdds (groups discovered result : List DiskGroupStatus) : Prop where
  /-- The groups come first, in order and in outline. -/
  kept : groups.map (·.outline) <+: result.map (·.outline)
  /-- Their disks have learned from what was matched to their places. -/
  learned : ∀ place old new, groups[place]? = some old → result[place]? = some new →
    LearnsFrom (matchedTo groups place discovered) old new
  /-- Any other group is a discovered one that was matched to no group in front of it, and has
  learned from what was matched to its place later. -/
  added : ∀ place new, groups.length ≤ place → result[place]? = some new →
    ∃ found ∈ discovered, IsNew (result.take place) found ∧
      LearnsFrom (matchedTo groups place discovered) found new

/-- An added group has in the end what the discovered one of its name tells of its disks: a size if
that tells one, and the validity that it tells unless the disk was reported later. -/
def HoldsOwnReports (groups discovered result : List DiskGroupStatus) : Prop :=
  ∀ place new, groups.length ≤ place → result[place]? = some new →
    ∀ found ∈ discovered, found.name = new.name →
      ∀ disk ∈ new.disks, ∀ report, found.disks.find? (·.name = disk.name) = some report →
        (disk.sizeGb = 0 → report.sizeGb = 0) ∧
          (reportsOf (matchedTo groups place discovered) disk.name = [] →
            disk.valid = report.valid)

/-- Entries of one disk are the same. -/
def RepeatsAlike (found : DiskGroupStatus) : Prop :=
  ∀ disk ∈ found.disks, ∀ other ∈ found.disks, disk.name = other.name → disk = other

namespace Learns

variable {reports : List DiskStatus} {old new again report : DiskStatus}

/-- A disk that is left without a size was told none. -/
theorem sizeGb_eq_zero_of_mem (h : Learns reports old new) (hnew : new.sizeGb = 0) :
    ∀ report ∈ reports, report.sizeGb = 0 := by
  by_cases hold : old.sizeGb = 0
  · rcases h.unrecorded hold with ⟨-, hall⟩ | ⟨report, -, hne, heq⟩
    · exact hall
    · exact absurd (heq.symm.trans hnew) hne
  · exact absurd ((h.recorded hold).symm.trans hnew) hold

theorem sizeGb_eq_iff (h : Learns reports old new) : new.sizeGb = old.sizeGb ↔
    (old.sizeGb = 0 → ∀ report ∈ reports, report.sizeGb = 0) := by
  constructor
  · exact fun heq hold => h.sizeGb_eq_zero_of_mem (heq.trans hold)
  · intro hreports
    by_cases hold : old.sizeGb = 0
    · rcases h.unrecorded hold with ⟨hnew, -⟩ | ⟨report, hreport, hne, -⟩
      · rw [hnew, hold]
      · exact absurd (hreports hold report hreport) hne
    · exact h.recorded hold

theorem valid_eq_iff (h : Learns reports old new) : new.valid = old.valid ↔
    ∀ report, reports.getLast? = some report → old.valid = report.valid := by
  cases hlast : reports.getLast? with
  | none =>
      have hvalid := h.unreported (List.getLast?_eq_none_iff.1 hlast)
      exact ⟨nofun, fun _ => hvalid⟩
  | some last =>
      have hvalid := h.reported last hlast
      constructor
      · rintro heq report hreport
        rw [← heq, hvalid, Option.some.inj hreport]
      · exact fun hreport => hvalid.trans (hreport last rfl).symm

/-- Reports teach a disk nothing exactly if it lacks no size that they tell and has the validity
that the last one tells. -/
theorem eq_iff (h : Learns reports old new) : new = old ↔
    (old.sizeGb = 0 → ∀ report ∈ reports, report.sizeGb = 0) ∧
      ∀ report, reports.getLast? = some report → old.valid = report.valid := by
  rw [← h.sizeGb_eq_iff, ← h.valid_eq_iff]
  constructor
  · rintro rfl
    exact ⟨rfl, rfl⟩
  · rintro ⟨hsize, hvalid⟩
    cases old
    cases new
    cases h.name
    cases hsize
    cases hvalid
    rfl

theorem fixed (h : Learns reports old new) (hagain : Learns reports new again) : again = new :=
  hagain.eq_iff.2 ⟨h.sizeGb_eq_zero_of_mem, h.reported⟩

/-- Another report in front of the same ones teaches a disk at most a size that none of them tells,
or the validity if there are none. -/
theorem eq_iff_of_cons (h : Learns reports old new)
    (hagain : Learns (report :: reports) new again) :
    again = new ↔ (new.sizeGb = 0 → report.sizeGb = 0) ∧
      (reports = [] → new.valid = report.valid) := by
  have hsize : (new.sizeGb = 0 → ∀ other ∈ report :: reports, other.sizeGb = 0) ↔
      (new.sizeGb = 0 → report.sizeGb = 0) := by
    constructor
    · exact fun hall hnew => hall hnew report List.mem_cons_self
    · exact fun hreport hnew =>
        List.forall_mem_cons.2 ⟨hreport hnew, h.sizeGb_eq_zero_of_mem hnew⟩
  have hvalid : (∀ other, (report :: reports).getLast? = some other → new.valid = other.valid) ↔
      (reports = [] → new.valid = report.valid) := by
    rw [List.getLast?_cons]
    cases hlast : reports.getLast? with
    | none => simp [List.getLast?_eq_none_iff.1 hlast]
    | some last =>
        have hsome : reports ≠ [] := by
          rintro rfl
          cases hlast
        simp [hsome, h.reported last hlast]
  rw [hagain.eq_iff, hsize, hvalid]

end Learns

section place

variable {groups others discovered later : List DiskGroupStatus} {found : DiskGroupStatus}
  {place : Nat}

/-- Groups of other names behind do not change where a discovered group belongs. -/
theorem place?_append (h : place? groups found = some place)
    (hothers : ∀ other ∈ others, other.name ≠ found.name) :
    place? (groups ++ others) found = some place := by
  have hnone : others.findIdx? (·.name = found.name) = none := by
    simpa using hothers
  rw [place?] at h ⊢
  rw [List.findIdx?_append, List.findIdx?_append, hnone, Option.map_none, Option.or_none]
  cases hname : groups.findIdx? (·.name = found.name) with
  | some first =>
      rw [hname, Option.some_or] at h
      rw [Option.some_or, h]
  | none =>
      rw [hname, Option.none_or] at h
      rw [Option.none_or, h, Option.some_or]

/-- A discovered group that was added belongs to itself. -/
theorem place?_append_cons (h : place? groups found = none) (others : List DiskGroupStatus) :
    place? (groups ++ found :: others) found = some groups.length := by
  have hnone : groups.findIdx? (·.name = found.name) = none := by
    rw [place?, Option.or_eq_none_iff] at h
    exact h.1
  rw [place?, List.findIdx?_append, hnone, Option.none_or, List.findIdx?_cons,
    if_pos (decide_eq_true rfl)]
  simp

theorem addedTo_sublist (groups discovered : List DiskGroupStatus) :
    (addedTo groups discovered).Sublist discovered := by
  induction discovered generalizing groups with
  | nil => exact List.Sublist.slnil
  | cons found later ih =>
      rw [addedTo]
      split
      · exact (ih _).cons_cons found
      · exact (ih _).cons found

/-- In the end a discovered group belongs where it was matched to, or added. -/
theorem place?_applyDiscovered_cons (hfresh : found.name ∉ later.map (·.name)) :
    place? (applyDiscovered groups (found :: later)) found =
      some ((place? groups found).getD groups.length) := by
  have hadded : ∀ other ∈ addedTo (applyGroup groups found) later, other.name ≠ found.name :=
    fun other hother heq =>
      hfresh (List.mem_map.2 ⟨other, (addedTo_sublist _ later).subset hother, heq⟩)
  rw [applyDiscovered_cons,
    place?_congr (map_shape_applyDiscovered_eq (applyGroup groups found) later)]
  cases hmatched : place? groups found with
  | none =>
      rw [applyGroup_of_place?_eq_none hmatched, List.append_assoc, List.singleton_append]
      exact place?_append_cons hmatched _
  | some first =>
      refine place?_append ?_ hadded
      rw [place?_congr (map_shape_applyGroup hmatched), hmatched]
      rfl

theorem isSome_place?_applyDiscovered (hnames : (discovered.map (·.name)).Nodup)
    (hfound : found ∈ discovered) : (place? (applyDiscovered groups discovered) found).isSome := by
  induction discovered generalizing groups with
  | nil => cases hfound
  | cons first later ih =>
      obtain ⟨hfresh, hlater⟩ := List.nodup_cons.1 hnames
      rcases List.mem_cons.1 hfound with rfl | hfound
      · rw [place?_applyDiscovered_cons hfresh]
        rfl
      · exact ih hlater hfound

/-- What belongs to a place in the end: the discovered group that was added there, if it was, and
what was matched to it. -/
theorem filter_place?_applyDiscovered (hnames : (discovered.map (·.name)).Nodup) (place : Nat) :
    discovered.filter (place? (applyDiscovered groups discovered) · = some place) =
      (if groups.length ≤ place then ((addedTo groups discovered)[place - groups.length]?).toList
        else []) ++ matchedTo groups place discovered := by
  induction discovered generalizing groups with
  | nil => simp [addedTo, matchedTo]
  | cons found later ih =>
      obtain ⟨hfresh, hlater⟩ := List.nodup_cons.1 hnames
      rw [List.filter_cons, place?_applyDiscovered_cons hfresh, applyDiscovered_cons, ih hlater]
      cases hmatched : place? groups found with
      | none =>
          have hlength : (applyGroup groups found).length = groups.length + 1 := by
            rw [applyGroup_of_place?_eq_none hmatched, List.length_append, List.length_singleton]
          simp only [addedTo, matchedTo, hmatched, hlength, Option.getD_none, reduceCtorEq,
            ↓reduceIte]
          rcases Nat.lt_trichotomy place groups.length with hbefore | rfl | hbehind
          · rw [if_neg (by simp; omega), if_neg (by omega), if_neg (by omega)]
          · rw [if_pos (by simp), if_neg (by omega), if_pos (Nat.le_refl _), Nat.sub_self]
            rfl
          · obtain ⟨distance, rfl⟩ := Nat.exists_eq_add_of_lt hbehind
            rw [if_neg (by simp; omega), if_pos (by omega), if_pos (by omega)]
            have hnext : groups.length + distance + 1 - groups.length = distance + 1 := by omega
            have hsame : groups.length + distance + 1 - (groups.length + 1) = distance := by omega
            rw [hnext, hsame, List.getElem?_cons_succ]
      | some first =>
          have hlt := lt_of_place? hmatched
          have hlength : (applyGroup groups found).length = groups.length := by
            rw [applyGroup_of_place? hmatched, List.length_modify]
          simp only [addedTo, matchedTo, hmatched, hlength, Option.getD_some, reduceCtorEq,
            ↓reduceIte, Option.some.injEq, decide_eq_true_eq]
          by_cases hplace : first = place
          · rw [if_pos hplace, if_pos hplace, if_neg (by omega)]
            rfl
          · rw [if_neg hplace, if_neg hplace]

/-- Where all discovered groups belong somewhere, they do so from the beginning. -/
theorem matchedTo_eq_filter (h : ∀ found ∈ discovered, (place? groups found).isSome)
    (place : Nat) :
    matchedTo groups place discovered = discovered.filter (place? groups · = some place) ∧
      addedTo groups discovered = [] := by
  induction discovered generalizing groups with
  | nil => exact ⟨rfl, rfl⟩
  | cons found later ih =>
      obtain ⟨hfound, hlater⟩ := List.forall_mem_cons.1 h
      obtain ⟨first, hfirst⟩ := Option.isSome_iff_exists.1 hfound
      have hsame : place? (applyGroup groups found) = place? groups :=
        funext fun other => place?_congr (map_shape_applyGroup hfirst) other
      obtain ⟨hmatched, hadded⟩ := @ih (applyGroup groups found) (hsame ▸ hlater)
      rw [matchedTo, addedTo, hmatched, hadded, hsame, hfirst, List.filter_cons, hfirst]
      simp only [decide_eq_true_eq, reduceCtorEq, ↓reduceIte, and_self]

/-- A second time every place is told the same, an added group its own reports first. -/
theorem getElem?_applyDiscovered_applyDiscovered (hnames : (discovered.map (·.name)).Nodup)
    (place : Nat) :
    (applyDiscovered (applyDiscovered groups discovered) discovered)[place]? =
      (applyDiscovered groups discovered)[place]?.map (DiskGroupStatus.mergeAll
        ((if groups.length ≤ place then ((addedTo groups discovered)[place - groups.length]?).toList
          else []) ++ matchedTo groups place discovered)) := by
  have hplaced : ∀ found ∈ discovered, (place? (applyDiscovered groups discovered) found).isSome :=
    fun _ hfound => isSome_place?_applyDiscovered hnames hfound
  obtain ⟨hmatched, hadded⟩ := matchedTo_eq_filter hplaced place
  rw [getElem?_applyDiscovered, hmatched, hadded, List.append_nil,
    filter_place?_applyDiscovered hnames]

/-- An added group was new behind those in front of it. -/
theorem isNew_take_applyDiscovered {number : Nat}
    (h : (addedTo groups discovered)[number]? = some found) :
    IsNew ((applyDiscovered groups discovered).take (groups.length + number)) found := by
  induction discovered generalizing groups number with
  | nil => cases h
  | cons first later ih =>
      rw [addedTo] at h
      cases hmatched : place? groups first with
      | none =>
          rw [hmatched, if_pos rfl] at h
          have hlength : (applyGroup groups first).length = groups.length + 1 := by
            rw [applyGroup_of_place?_eq_none hmatched, List.length_append, List.length_singleton]
          cases number with
          | zero =>
              obtain rfl := Option.some.inj h
              rw [← place?_eq_none_iff, ← hmatched]
              apply place?_congr
              rw [List.map_take, map_shape_applyDiscovered_eq, List.map_append, List.take_left']
              rw [List.length_map, Nat.add_zero]
          | succ number =>
              have hnew := ih h
              rw [hlength, Nat.add_assoc, Nat.add_comm 1] at hnew
              exact hnew
      | some place =>
          have hlength : (applyGroup groups first).length = groups.length := by
            rw [applyGroup_of_place? hmatched, List.length_modify]
          rw [hmatched, if_neg (Option.some_ne_none _)] at h
          have hnew := ih h
          rw [hlength] at hnew
          exact hnew

end place

section groups

variable {groups discovered told : List DiskGroupStatus} {found group new : DiskGroupStatus}
  {place : Nat}

theorem learnsFrom_mergeAll (told : List DiskGroupStatus) (group : DiskGroupStatus) :
    LearnsFrom told group (DiskGroupStatus.mergeAll told group) where
  outline := outline_mergeAll told group
  disks := by
    rw [mergeAll_eq, List.forall₂_map_right_iff, List.forall₂_same]
    exact fun disk _ => learns_mergeAll told disk

theorem mergeAll_eq_self_iff : DiskGroupStatus.mergeAll told group = group ↔
    ∀ disk ∈ group.disks, DiskStatus.mergeAll told disk = disk := by
  have hdisks : DiskGroupStatus.mergeAll told group = group ↔
      group.disks.map (DiskStatus.mergeAll told) = group.disks.map id := by
    rw [List.map_id, mergeAll_eq]
    constructor
    · exact fun h => congrArg (·.disks) h
    · exact fun h => by rw [h]
  exact hdisks.trans List.map_inj_left

/-- What a group was told it is told in vain again. -/
theorem mergeAll_mergeAll (told : List DiskGroupStatus) (group : DiskGroupStatus) :
    DiskGroupStatus.mergeAll told (DiskGroupStatus.mergeAll told group) =
      DiskGroupStatus.mergeAll told group := by
  rw [mergeAll_eq_self_iff]
  intro disk hdisk
  rw [mergeAll_eq] at hdisk
  obtain ⟨old, -, rfl⟩ := List.mem_map.1 hdisk
  have hlearned := learns_mergeAll told old
  have hagain := learns_mergeAll told (DiskStatus.mergeAll told old)
  rw [hlearned.name] at hagain
  exact hlearned.fixed hagain

/-- A group that has learned from others is told its own disks in vain exactly if it holds what it
reports of them. -/
theorem mergeAll_cons_eq_self_iff (found : DiskGroupStatus) (told : List DiskGroupStatus) :
    DiskGroupStatus.mergeAll (found :: told) (DiskGroupStatus.mergeAll told found) =
        DiskGroupStatus.mergeAll told found ↔
      ∀ disk ∈ (DiskGroupStatus.mergeAll told found).disks, ∀ report,
        found.disks.find? (·.name = disk.name) = some report →
          (disk.sizeGb = 0 → report.sizeGb = 0) ∧
            (reportsOf told disk.name = [] → disk.valid = report.valid) := by
  rw [mergeAll_eq_self_iff, mergeAll_eq]
  refine forall₂_congr fun disk hdisk => ?_
  obtain ⟨old, hold, rfl⟩ := List.mem_map.1 hdisk
  have hlearned := learns_mergeAll told old
  have hagain := learns_mergeAll (found :: told) (DiskStatus.mergeAll told old)
  obtain ⟨report, hreport⟩ : ∃ report,
      found.disks.find? (·.name = (DiskStatus.mergeAll told old).name) = some report := by
    rw [← Option.isSome_iff_exists, List.find?_isSome]
    exact ⟨old, hold, decide_eq_true hlearned.name.symm⟩
  rw [reportsOf, List.filterMap_cons, hreport] at hagain
  rw [← hlearned.name] at hlearned
  rw [hlearned.eq_iff_of_cons hagain, hreport]
  simp only [Option.some.injEq, forall_eq']

/-- What stands behind the groups of the beginning is an added one with all that it was told. -/
theorem exists_addedTo_of_getElem? (hplace : groups.length ≤ place)
    (hnew : (applyDiscovered groups discovered)[place]? = some new) :
    ∃ found, (addedTo groups discovered)[place - groups.length]? = some found ∧
      new = DiskGroupStatus.mergeAll (matchedTo groups place discovered) found := by
  rw [getElem?_applyDiscovered, List.getElem?_append_right hplace] at hnew
  obtain ⟨found, hfound, rfl⟩ := Option.map_eq_some_iff.1 hnew
  exact ⟨found, hfound, rfl⟩

theorem mem_of_getElem?_addedTo {number : Nat}
    (h : (addedTo groups discovered)[number]? = some found) : found ∈ discovered :=
  (addedTo_sublist groups discovered).subset (List.mem_of_getElem? h)

/-- Of discovered groups with distinct names an added one is known by its name. -/
theorem eq_of_name_mergeAll {other : DiskGroupStatus} (hnames : (discovered.map (·.name)).Nodup)
    (hother : other ∈ discovered) (hfound : found ∈ discovered)
    (hname : other.name = (DiskGroupStatus.mergeAll told found).name) : other = found := by
  rw [mergeAll_eq] at hname
  exact List.inj_on_of_nodup_map hnames hother hfound hname

/-- Merging groups of distinct names again changes nothing exactly if the added groups hold what the
discovered ones tell of their own disks. -/
theorem applyDiscovered_applyDiscovered_eq_iff (hnames : (discovered.map (·.name)).Nodup) :
    applyDiscovered (applyDiscovered groups discovered) discovered =
        applyDiscovered groups discovered ↔
      HoldsOwnReports groups discovered (applyDiscovered groups discovered) := by
  rw [List.ext_getElem?_iff]
  refine forall_congr' fun place => ?_
  rw [getElem?_applyDiscovered_applyDiscovered hnames]
  cases hnew : (applyDiscovered groups discovered)[place]? with
  | none => simp
  | some new =>
      rw [Option.map_some, Option.some.injEq]
      by_cases hplace : groups.length ≤ place
      · obtain ⟨found, hfound, rfl⟩ := exists_addedTo_of_getElem? hplace hnew
        have hmem := mem_of_getElem?_addedTo hfound
        rw [if_pos hplace, hfound, Option.toList_some, List.singleton_append,
          mergeAll_cons_eq_self_iff]
        constructor
        · rintro h _ - ⟨⟩ other hother heq
          obtain rfl := eq_of_name_mergeAll hnames hother hmem heq
          exact h
        · exact fun h => h _ hplace rfl found hmem (by rw [mergeAll_eq])
      · rw [getElem?_applyDiscovered] at hnew
        obtain ⟨old, -, rfl⟩ := Option.map_eq_some_iff.1 hnew
        rw [if_neg hplace, List.nil_append]
        exact iff_of_true (mergeAll_mergeAll _ old) fun _ hbehind => absurd hbehind hplace

theorem onlyAdds_of_applyDiscovered (groups discovered : List DiskGroupStatus) :
    OnlyAdds groups discovered (applyDiscovered groups discovered) where
  kept := by
    rw [map_outline_applyDiscovered_eq, List.map_append]
    exact List.prefix_append _ _
  learned place old new hold hnew := by
    have hplace := (List.getElem?_eq_some_iff.1 hold).1
    rw [getElem?_applyDiscovered, List.getElem?_append_left hplace, hold] at hnew
    obtain rfl := Option.some.inj hnew
    exact learnsFrom_mergeAll _ old
  added place new hplace hnew := by
    obtain ⟨found, hfound, rfl⟩ := exists_addedTo_of_getElem? hplace hnew
    have hisNew := isNew_take_applyDiscovered hfound
    rw [Nat.add_sub_cancel' hplace] at hisNew
    exact ⟨found, mem_of_getElem?_addedTo hfound, hisNew, learnsFrom_mergeAll _ found⟩

/-- Discovered groups whose entries of one disk are the same tell their own disks nothing new. -/
theorem holdsOwnReports_of_repeatsAlike (hnames : (discovered.map (·.name)).Nodup)
    (halike : ∀ found ∈ discovered, RepeatsAlike found) :
    HoldsOwnReports groups discovered (applyDiscovered groups discovered) := by
  rintro place new hplace hnew other hother hname disk hdisk report hreport
  obtain ⟨found, hfound, rfl⟩ := exists_addedTo_of_getElem? hplace hnew
  have hmem := mem_of_getElem?_addedTo hfound
  obtain rfl := eq_of_name_mergeAll hnames hother hmem hname
  rw [mergeAll_eq] at hdisk
  obtain ⟨old, hold, rfl⟩ := List.mem_map.1 hdisk
  have hlearned := learns_mergeAll (matchedTo groups place discovered) old
  rw [hlearned.name] at hreport ⊢
  obtain rfl : old = report := halike other hother old hold report
    (List.mem_of_find?_eq_some hreport) (key_of_find? hreport).symm
  refine ⟨fun hzero => ?_, hlearned.unreported⟩
  by_contra hsize
  exact hsize ((hlearned.recorded hsize).symm.trans hzero)

end groups

/-- The groups of the beginning stay in front, in order and in outline, their disks learn what is
reported of them, and behind them are discovered groups that were new. With distinct names, merging
the discovered groups again changes nothing exactly if the added ones hold what is told of their own
disks, as they do where entries of one disk are the same. -/
theorem onlyAdds_applyDiscovered (groups discovered : List DiskGroupStatus) :
    let result := applyDiscovered groups discovered
    OnlyAdds groups discovered result ∧
      ((discovered.map (·.name)).Nodup →
        (applyDiscovered result discovered = result ↔
          HoldsOwnReports groups discovered result) ∧
        ((∀ found ∈ discovered, RepeatsAlike found) →
          applyDiscovered result discovered = result)) := by
  intro result
  refine ⟨onlyAdds_of_applyDiscovered groups discovered, fun hnames => ?_⟩
  have hagain : applyDiscovered result discovered = result ↔
      HoldsOwnReports groups discovered result :=
    applyDiscovered_applyDiscovered_eq_iff hnames
  exact ⟨hagain, fun halike => hagain.2 (holdsOwnReports_of_repeatsAlike hnames halike)⟩

/-- A stand-in for the registry. -/
def registryOnly : List DiskGroupStatus :=
  [placeholder .crs [⟨"/dev/sdb", 0, true⟩]]

/-- Three discovered groups: the first is matched to the stand-in, the second is added, and the
third is matched to the second and contradicts it. -/
def threeFound : List DiskGroupStatus :=
  [⟨"OCR", some .crs, "", true, none, [⟨"/dev/sdb", 50, false⟩]⟩,
    ⟨"REDO", some .redo, "", false, some "fast", [⟨"/dev/sdc", 0, true⟩, ⟨"/dev/sdc", 0, true⟩]⟩,
    ⟨"LOG", some .redo, "", false, none, [⟨"/dev/sdc", 70, false⟩]⟩]

theorem onlyAdds_applyDiscovered_threeFound :
    let result : List DiskGroupStatus :=
      [placeholder .crs [⟨"/dev/sdb", 50, false⟩],
        ⟨"REDO", some .redo, "", false, some "fast",
          [⟨"/dev/sdc", 70, false⟩, ⟨"/dev/sdc", 70, false⟩]⟩]
    applyDiscovered registryOnly threeFound = result ∧
      OnlyAdds registryOnly threeFound result ∧
      (threeFound.map (·.name)).Nodup ∧ (∀ found ∈ threeFound, RepeatsAlike found) ∧
      HoldsOwnReports registryOnly threeFound result ∧
      applyDiscovered result threeFound = result := by
  intro result
  have hresult : applyDiscovered registryOnly threeFound = result := by
    decide
  have hnames : (threeFound.map (·.name)).Nodup := by
    decide
  have halike : ∀ found ∈ threeFound, RepeatsAlike found := by
    unfold RepeatsAlike
    decide
  obtain ⟨hadds, hagain⟩ := onlyAdds_applyDiscovered registryOnly threeFound
  rw [hresult] at hadds hagain
  obtain ⟨hiff, hfixed⟩ := hagain hnames
  exact ⟨hresult, hadds, hnames, halike, hiff.1 (hfixed halike), hfixed halike⟩

/-- A discovered group with two entries of one disk, of which only the first has a size. -/
def enteredTwice : DiskGroupStatus :=
  ⟨"DATA", some .dbData, "", false, none, [⟨"/dev/sdb", 50, true⟩, ⟨"/dev/sdb", 0, true⟩]⟩

/-- Some groups of distinct names change what they were merged into when they are merged again. -/
theorem not_forall_applyDiscovered_again :
    ¬∀ groups discovered : List DiskGroupStatus, (discovered.map (·.name)).Nodup →
      applyDiscovered (applyDiscovered groups discovered) discovered =
        applyDiscovered groups discovered := by
  intro hall
  have hagain := hall [] [enteredTwice] (by decide)
  exact absurd hagain (by decide)

end ClusterWatch.Disks
