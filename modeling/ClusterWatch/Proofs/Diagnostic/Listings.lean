import ClusterWatch.Diagnostic.Console
import ClusterWatch.Proofs.Diagnostic.Devices
import ClusterWatch.Proofs.Diagnostic.Items

/-!
Listings of disks in any layout.

The disks of a group come one on a line, with commas between them, or both, with blanks around them
and line breaks of either kind. Carriage returns are dropped first, and then commas and line feeds
cut alike, so all layouts of some names say the same.
Main statement: `disks_in_any_layout`.
-/

namespace ClusterWatch.Diagnostic

variable {cs : List Char} {names : List String} {name output disk : String}

/-- What keeps two disks apart in a listing. -/
def cutsDisks (c : Char) : Bool :=
  c == '\n' || c == ','

/-- The text holds the names in their order. Before, between and behind them are commas and blanks,
such as spaces, tabs and line breaks of either kind, and between two of them at least a comma or a
line feed. -/
inductive Lists : List String → List Char → Prop
  | none {filler : List Char} (hfiller : IsFiller cutsDisks filler) : Lists [] filler
  | last {name : String} {before after : List Char} (hbefore : IsFiller cutsDisks before)
      (hafter : IsFiller cutsDisks after) : Lists [name] (before ++ name.toList ++ after)
  | cons {name next : String} {names : List String} {before between rest : List Char}
      (hbefore : IsFiller cutsDisks before) (hbetween : IsFiller cutsDisks between)
      (hcut : ',' ∈ between ∨ '\n' ∈ between) (hrest : Lists (next :: names) rest) :
      Lists (name :: next :: names) (before ++ name.toList ++ (between ++ rest))

theorem disksOf_eq_flatMap (output : String) :
    disksOf output = (Text.splitAt '\n' (dropReturns output.toList)).flatMap commaItems := by
  refine Text.flatMap_lines ?_ (fun piece => ?_) _
  · rw [commaItems_eq, itemsBetween_nil]
  · rw [commaItems_eq, commaItems_eq]
    exact itemsBetween_concat (Or.inl (by decide)) piece

/-- Commas and line feeds cut alike. -/
theorem disksOf_eq (output : String) :
    disksOf output = itemsBetween cutsDisks (dropReturns output.toList) := by
  have hcuts : (fun c => c == '\n' || c == ',') = cutsDisks := rfl
  rw [disksOf_eq_flatMap, itemsBetween, ← hcuts, ← Text.flatMap_splitAt, List.map_flatMap,
    List.filter_flatMap, List.map_flatMap]
  rfl

theorem itemsBetween_path (h : IsPath name) : itemsBetween cutsDisks name.toList = [name] := by
  have huncut : ∀ c ∈ name.toList, cutsDisks c = false := by
    intro c hc
    have hne : c ≠ '\n' ∧ c ≠ ',' :=
      ⟨fun heq => h.lineFeed (heq ▸ hc), fun heq => h.comma (heq ▸ hc)⟩
    simp [cutsDisks, hne]
  rw [itemsBetween_of_uncut huncut, h.trimmed.trim_eq, if_neg (by simpa using h.ne_nil),
    String.ofList_toList]

namespace Lists

/-- The names of a listing are read from it, in whatever layout it has them. -/
theorem itemsBetween_eq (h : Lists names cs) (hnames : ∀ name ∈ names, IsPath name) :
    itemsBetween cutsDisks cs = names := by
  induction h with
  | none hfiller =>
      have hpad := itemsBetween_pad hfiller (isFiller_nil cutsDisks) []
      rwa [List.append_nil, List.append_nil, itemsBetween_nil] at hpad
  | last hbefore hafter =>
      rw [itemsBetween_pad hbefore hafter, itemsBetween_path (List.forall_mem_singleton.1 hnames)]
  | @cons name next names before between rest hbefore hbetween hcut hrest ih =>
      obtain ⟨hname, hrestNames⟩ := List.forall_mem_cons.1 hnames
      obtain ⟨c, hc, hmem⟩ : ∃ c, cutsDisks c = true ∧ c ∈ between := by
        rcases hcut with hcomma | hfeed
        · exact ⟨',', rfl, hcomma⟩
        · exact ⟨'\n', rfl, hfeed⟩
      obtain ⟨front, back, rfl⟩ := List.append_of_mem hmem
      obtain ⟨hfront, hcback⟩ := List.forall_mem_append.1 hbetween
      have hback : IsFiller cutsDisks back := (List.forall_mem_cons.1 hcback).2
      have hrestItems := itemsBetween_pad hback (isFiller_nil cutsDisks) rest
      calc
        itemsBetween cutsDisks (before ++ name.toList ++ (front ++ c :: back ++ rest))
            = itemsBetween cutsDisks ((before ++ name.toList ++ front) ++ c :: (back ++ rest)) := by
              simp only [List.append_assoc, List.cons_append]
        _ = itemsBetween cutsDisks (before ++ name.toList ++ front) ++
              itemsBetween cutsDisks (back ++ rest) := itemsBetween_append_cons hc _ _
        _ = name :: next :: names := by
              rw [itemsBetween_pad hbefore hfront, itemsBetween_path hname,
                ← List.append_nil (back ++ rest), hrestItems, ih hrestNames, List.singleton_append]

theorem filler_dropReturns {filler : List Char} (h : IsFiller cutsDisks filler) :
    IsFiller cutsDisks (dropReturns filler) :=
  fun c hc => h c (List.mem_of_mem_filter hc)

/-- Without its carriage returns a listing lists the same. -/
theorem dropReturns_of_paths (h : Lists names cs) (hnames : ∀ name ∈ names, IsPath name) :
    Lists names (dropReturns cs) := by
  have hkept : ∀ name : String, IsPath name → dropReturns name.toList = name.toList := by
    intro name hname
    rw [dropReturns, List.filter_eq_self]
    intro c hc
    rw [decide_eq_true_eq]
    rintro rfl
    exact hname.carriageReturn hc
  induction h with
  | none hfiller => exact .none (filler_dropReturns hfiller)
  | @last name before after hbefore hafter =>
      rw [dropReturns_append, dropReturns_append, hkept name (List.forall_mem_singleton.1 hnames)]
      exact .last (filler_dropReturns hbefore) (filler_dropReturns hafter)
  | @cons name next names before between rest hbefore hbetween hcut hrest ih =>
      obtain ⟨hname, hrestNames⟩ := List.forall_mem_cons.1 hnames
      have hcutKept : ',' ∈ dropReturns between ∨ '\n' ∈ dropReturns between :=
        hcut.imp (fun h => List.mem_filter.2 ⟨h, by decide⟩)
          (fun h => List.mem_filter.2 ⟨h, by decide⟩)
      rw [dropReturns_append, dropReturns_append, dropReturns_append, hkept name hname]
      exact .cons (filler_dropReturns hbefore) (filler_dropReturns hbetween) hcutKept
        (ih hrestNames)

end Lists

theorem isPath_of_mem_disksOf (h : disk ∈ disksOf output) : IsPath disk := by
  rw [disksOf_eq_flatMap] at h
  obtain ⟨line, hline, hdisk⟩ := List.mem_flatMap.1 h
  refine ⟨⟨isItem_of_mem_commaItems hdisk, fun hreturn => ?_⟩, fun hfeed => ?_⟩
  · have hmem := Text.mem_of_mem_splitAt hline (mem_of_mem_commaItems hdisk hreturn)
    exact of_decide_eq_true (List.mem_filter.1 hmem).2 rfl
  · exact Text.not_mem_of_mem_splitAt hline (mem_of_mem_commaItems hdisk hfeed)

/-- Paths in any layout are read as they are, in their order and as often as they are listed.
Carriage returns make no difference anywhere in an output, all that is read from one are paths, and
what is read from its answer is what a running pod reports. -/
theorem disks_in_any_layout :
    (∀ (names : List String) (output : String), (∀ name ∈ names, IsPath name) →
      Lists names output.toList → disksOf output = names) ∧
    (∀ output other : String,
      (output.toList.filter fun c => c ≠ '\r') = (other.toList.filter fun c => c ≠ '\r') →
        disksOf output = disksOf other) ∧
    (∀ output, ∀ disk ∈ disksOf output, IsPath disk) ∧
    ∀ (c : Console) (pod group : String) (out : ExecOutput), c.isRunning pod = true →
      c.platform.answer pod (c.scripts.disks group) = .ok out →
        (c.disks pod group).value = disksOf out.stdout := by
  refine ⟨?_, ?_, ?_, ?_⟩
  · intro names output hnames hlists
    rw [disksOf_eq]
    exact (hlists.dropReturns_of_paths hnames).itemsBetween_eq hnames
  · intro output other hsame
    rw [disksOf_eq, disksOf_eq, dropReturns, dropReturns, hsame]
  · exact fun output disk => isPath_of_mem_disksOf
  · intro c pod group out hrunning hanswer
    rw [Console.disks, Console.probe, Console.run_eq_ite, if_pos hrunning]
    simp only [Journal.value_bind, hanswer, Journal.value_pure]

/-- Three disks between commas, line breaks of both kinds and blanks. -/
def mixedListing : String :=
  ",\r\n/dev/sda ,\t/dev/sd b\n\n /dev/sda\r"

/-- A node that lists its disks so. -/
def mixedConsole : Console where
  platform :=
    (({} : Platform).addNode "racnode").respond "racnode-0" "--getasmdisks=DATA" mixedListing
  ns := "rac"
  scripts := .mountedAt "/opt/scripts/" "/bin/python3"

theorem disks_in_any_layout_mixed :
    Lists ["/dev/sda", "/dev/sd b", "/dev/sda"] mixedListing.toList ∧
      (mixedConsole.disks "racnode-0" "DATA").value = ["/dev/sda", "/dev/sd b", "/dev/sda"] := by
  obtain ⟨hread, -, -, hanswered⟩ := disks_in_any_layout
  have hnames : ∀ name ∈ ["/dev/sda", "/dev/sd b", "/dev/sda"], IsPath name := by
    decide
  have hlast : Lists ["/dev/sda"] ("\n ".toList ++ "/dev/sda".toList ++ "\r".toList) :=
    .last (by decide) (by decide)
  have hmiddle : Lists ["/dev/sd b", "/dev/sda"]
      ("\t".toList ++ "/dev/sd b".toList ++ ("\n".toList ++ "\n /dev/sda\r".toList)) :=
    .cons (by decide) (by decide) (Or.inr (by decide)) hlast
  have hlists : Lists ["/dev/sda", "/dev/sd b", "/dev/sda"]
      (",\r\n".toList ++ "/dev/sda".toList ++
        (" ,".toList ++ "\t/dev/sd b\n\n /dev/sda\r".toList)) :=
    .cons (by decide) (by decide) (Or.inl (by decide)) hmiddle
  refine ⟨hlists, ?_⟩
  rw [hanswered mixedConsole "racnode-0" "DATA" { stdout := mixedListing } (by decide) (by decide)]
  exact hread _ mixedListing hnames hlists

end ClusterWatch.Diagnostic
