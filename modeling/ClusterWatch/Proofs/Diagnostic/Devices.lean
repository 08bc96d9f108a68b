import ClusterWatch.Diagnostic.Output
import ClusterWatch.Proofs.Pointwise
import ClusterWatch.Proofs.Text.Cutting
import ClusterWatch.Proofs.Text.Padding

/-!
Lists of devices in a node's environment file.

What is read between commas is something without commas and without blanks at its ends, and a list
of such items, put together with commas, is read as it was. A line feed or an equals sign inside an
item does no harm, since only the first equals sign of the output counts.
Main statements: `isDevice_of_mem` and `devicesOf?_line`.
-/

namespace ClusterWatch.Diagnostic

variable {cs : List Char} {items devices : List String} {item name rest output : String} {c : Char}

/-- Something without a comma and without blanks at its ends. -/
structure IsItem (item : String) : Prop where
  ne_nil : item.toList ≠ []
  comma : ',' ∉ item.toList
  trimmed : Text.IsTrimmed item.toList

/-- An item without a carriage return. -/
structure IsDevice (path : String) : Prop extends IsItem path where
  carriageReturn : '\r' ∉ path.toList

/-- A device on one line. -/
structure IsPath (path : String) : Prop extends IsDevice path where
  lineFeed : '\n' ∉ path.toList

instance (path : String) : Decidable (IsPath path) :=
  decidable_of_iff
    (path.toList ≠ [] ∧ ',' ∉ path.toList ∧ Text.IsTrimmed path.toList ∧ '\r' ∉ path.toList ∧
      '\n' ∉ path.toList)
    ⟨fun ⟨hne, hcomma, htrimmed, hreturn, hfeed⟩ => ⟨⟨⟨hne, hcomma, htrimmed⟩, hreturn⟩, hfeed⟩,
      fun h => ⟨h.ne_nil, h.comma, h.trimmed, h.carriageReturn, h.lineFeed⟩⟩

theorem mem_commaItems_iff : item ∈ commaItems cs ↔
    item.toList ≠ [] ∧ ∃ piece ∈ Text.splitAt ',' cs, Text.trim piece = item.toList := by
  simp only [commaItems, List.mem_map, List.mem_filter, Bool.not_eq_true',
    List.isEmpty_eq_false_iff]
  constructor
  · rintro ⟨_, ⟨⟨piece, hpiece, rfl⟩, hne⟩, rfl⟩
    rw [String.toList_ofList]
    exact ⟨hne, piece, hpiece, rfl⟩
  · rintro ⟨hne, piece, hpiece, htrim⟩
    exact ⟨item.toList, ⟨⟨piece, hpiece, htrim⟩, hne⟩, String.ofList_toList⟩

theorem isItem_of_mem_commaItems (h : item ∈ commaItems cs) : IsItem item := by
  obtain ⟨hne, piece, hpiece, htrim⟩ := mem_commaItems_iff.1 h
  refine ⟨hne, ?_, ?_⟩
  · rw [← htrim]
    exact fun hcomma => Text.not_mem_of_mem_splitAt hpiece ((Text.trim_isInfix piece).mem hcomma)
  · rw [← htrim]
    exact Text.isTrimmed_trim piece

theorem mem_of_mem_commaItems (h : item ∈ commaItems cs) (hc : c ∈ item.toList) : c ∈ cs := by
  obtain ⟨-, piece, hpiece, htrim⟩ := mem_commaItems_iff.1 h
  rw [← htrim] at hc
  exact Text.mem_of_mem_splitAt hpiece ((Text.trim_isInfix piece).mem hc)

theorem devicesOf?_eq_some_iff : devicesOf? output = some devices ↔
    ∃ before value, Text.cutFirst '=' output.toList = some (before, value) ∧
      commaItems (dropReturns (Text.trim value)) = devices := by
  simp [devicesOf?]

theorem parseDevices_eq_ok_iff {pod : String} :
    parseDevices pod output = .ok devices ↔ devicesOf? output = some devices := by
  rw [parseDevices]
  cases devicesOf? output <;> simp

theorem isDevice_of_mem (h : devicesOf? output = some devices) :
    ∀ device ∈ devices, IsDevice device := by
  obtain ⟨-, value, -, rfl⟩ := devicesOf?_eq_some_iff.1 h
  intro device hdevice
  refine ⟨isItem_of_mem_commaItems hdevice, fun hreturn => ?_⟩
  have hkept := (List.mem_filter.1 (mem_of_mem_commaItems hdevice hreturn)).2
  exact of_decide_eq_true hkept rfl

/-- Items with commas between them come back as they were. -/
theorem commaItems_intercalate (hne : items ≠ []) (h : ∀ item ∈ items, IsItem item) :
    commaItems (",".intercalate items).toList = items := by
  have hcut : Text.splitAt ',' (",".intercalate items).toList = items.map String.toList := by
    rw [String.toList_intercalate]
    refine Text.splitAt_intercalate (mt List.map_eq_nil_iff.1 hne) fun piece hpiece => ?_
    obtain ⟨item, hitem, rfl⟩ := List.mem_map.1 hpiece
    exact (h item hitem).comma
  have htrim : (items.map String.toList).map Text.trim = items.map String.toList := by
    rw [List.map_map]
    exact List.map_congr_left fun item hitem => (h item hitem).trimmed.trim_eq
  have hkept : (items.map String.toList).filter (!·.isEmpty) = items.map String.toList := by
    rw [List.filter_eq_self]
    intro piece hpiece
    obtain ⟨item, hitem, rfl⟩ := List.mem_map.1 hpiece
    simpa using (h item hitem).ne_nil
  rw [commaItems, hcut, htrim, hkept, List.map_map]
  exact map_eq_self fun item _ => String.ofList_toList

theorem isTrimmed_intercalate (hne : items ≠ []) (h : ∀ item ∈ items, IsItem item) :
    (",".intercalate items).toList ≠ [] ∧ Text.IsTrimmed (",".intercalate items).toList := by
  rw [String.toList_intercalate]
  induction items with
  | nil => exact absurd rfl hne
  | cons item items ih =>
      obtain ⟨hitem, hitems⟩ := List.forall_mem_cons.1 h
      cases items with
      | nil =>
          rw [List.map_singleton, List.intercalate_singleton]
          exact ⟨hitem.ne_nil, hitem.trimmed⟩
      | cons next items =>
          obtain ⟨hrest, htrimmed⟩ := ih (List.cons_ne_nil _ _) hitems
          rw [List.map_cons, List.map_cons, List.intercalate_cons_cons]
          exact ⟨List.append_ne_nil_of_right_ne_nil _ hrest,
            hitem.trimmed.around hitem.ne_nil htrimmed hrest _⟩

/-- A line with a name and a list of devices is read as the list, whatever blanks follow. -/
theorem devicesOf?_line (hname : '=' ∉ name.toList) (hne : devices ≠ [])
    (h : ∀ device ∈ devices, IsDevice device) (hrest : Text.AllBlank rest.toList) :
    devicesOf? (name ++ "=" ++ ",".intercalate devices ++ rest) = some devices := by
  have hitems : ∀ device ∈ devices, IsItem device := fun device hdevice =>
    (h device hdevice).toIsItem
  obtain ⟨-, htrimmed⟩ := isTrimmed_intercalate hne hitems
  have hcut : Text.cutFirst '=' (name ++ "=" ++ ",".intercalate devices ++ rest).toList =
      some (name.toList, (",".intercalate devices).toList ++ rest.toList) := by
    rw [String.toList_append, String.toList_append, String.toList_append, List.append_assoc,
      List.append_assoc]
    exact Text.cutFirst_append hname _
  have hreturns : dropReturns (",".intercalate devices).toList =
      (",".intercalate devices).toList := by
    rw [dropReturns, List.filter_eq_self]
    intro c hc
    rw [decide_eq_true_eq]
    rintro rfl
    rw [String.toList_intercalate] at hc
    rcases Text.of_mem_intercalate hc with hcomma | ⟨piece, hpiece, hreturn⟩
    · exact absurd hcomma (by decide)
    · obtain ⟨device, hdevice, rfl⟩ := List.mem_map.1 hpiece
      exact (h device hdevice).carriageReturn hreturn
  refine devicesOf?_eq_some_iff.2 ⟨_, _, hcut, ?_⟩
  rw [htrimmed.trim_append hrest, hreturns, commaItems_intercalate hne hitems]

end ClusterWatch.Diagnostic
