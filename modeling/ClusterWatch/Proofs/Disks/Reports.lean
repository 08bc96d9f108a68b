import ClusterWatch.Pass.Disks
import ClusterWatch.Proofs.Dict
import ClusterWatch.Proofs.Json.Records
import ClusterWatch.Proofs.Text.Cutting
import ClusterWatch.Proofs.Text.Padding

/-!
Reports of the disk check, line by line.

A line tells of a disk or of none, whatever stands on other lines: two reports one below the other
tell what both tell, and a line that tells of nothing might as well not be there. The reports of all
pods are what their lines tell, in the order of the pods' names and then of the lines.
Main statement: `lineLocal_parseReport`.
-/

namespace ClusterWatch.Disks

variable {line : List Char} {disk : DiskStatus} {json : Json}

/-- The record has the disk's name, whether it is valid, or nothing if it is not, and its size, or
nothing if that is zero. -/
def Describes (json : Json) (disk : DiskStatus) : Prop :=
  ∃ valid size, json.slots reportFields = some [some (.text disk.name), valid, size] ∧
    (valid = some (.bool disk.valid) ∨ valid = none ∧ disk.valid = false) ∧
    (size = some (.integer disk.sizeGb.toNat) ∨ size = none ∧ disk.sizeGb = 0)

/-- But for blanks around it the line is the record of the disk. -/
def Tells (line : List Char) (disk : DiskStatus) : Prop :=
  ∃ json, Json.ofChars? (Text.trim line) = some json ∧ Describes json disk

theorem reportOfJson?_eq_some_iff : reportOfJson? json = some disk ↔ Describes json disk := by
  rw [reportOfJson?]
  simp only [Option.bind_eq_bind, Option.bind_eq_some_iff, Describes]
  constructor
  · rintro ⟨slots, hslots, h⟩
    split at h
    · next name valid size =>
        simp only [Option.pure_def, Option.bind_eq_some_iff, Json.text?_eq_some_iff,
          Json.default?_eq_some_iff, Json.uint64?_eq_some_iff, Json.bool?_eq_some_iff,
          exists_eq_right] at h
        obtain ⟨s, rfl, n, hn, b, hb, heq⟩ := h
        obtain rfl := Option.some.inj heq
        exact ⟨valid, size, hslots, hb, hn⟩
    · cases h
  · rintro ⟨valid, size, hslots, hvalid, hsize⟩
    refine ⟨_, hslots, ?_⟩
    simp only [Option.pure_def, Option.bind_eq_some_iff, Json.text?_eq_some_iff,
      Json.default?_eq_some_iff, Json.uint64?_eq_some_iff, Json.bool?_eq_some_iff,
      exists_eq_right]
    exact ⟨disk.name, rfl, disk.sizeGb, hsize, disk.valid, hvalid, rfl⟩

theorem reportOfLine?_eq_some_iff : reportOfLine? line = some disk ↔ Tells line disk := by
  rw [reportOfLine?, Option.bind_eq_bind, Option.bind_eq_some_iff]
  simp only [reportOfJson?_eq_some_iff, Tells]

theorem reportOfLine?_eq_none (h : ¬∃ disk, Tells line disk) : reportOfLine? line = none := by
  rw [Option.eq_none_iff_forall_ne_some]
  exact fun disk hdisk => h ⟨disk, reportOfLine?_eq_some_iff.1 hdisk⟩

theorem not_tells_of_allBlank (h : Text.AllBlank line) : ¬Tells line disk := by
  have hpad := Text.trim_pad h Text.allBlank_nil []
  rw [List.append_nil, List.append_nil] at hpad
  rintro ⟨json, hjson, -⟩
  rw [hpad] at hjson
  cases hjson

/-- A report is what is told between its line feeds. -/
theorem parseReport_eq (output : String) :
    parseReport output = (Text.splitAt '\n' output.toList).filterMap reportOfLine? := by
  rw [parseReport, List.filterMap_eq_flatMap_toList, List.filterMap_eq_flatMap_toList]
  refine Text.flatMap_lines ?_ (fun piece => ?_) _
  · rw [reportOfLine?_eq_none fun ⟨disk, hdisk⟩ => not_tells_of_allBlank Text.allBlank_nil hdisk]
    rfl
  · have hreturn : Text.AllBlank ['\r'] := by
      decide
    have htrim : Text.trim (piece ++ ['\r']) = Text.trim piece :=
      Text.trim_pad Text.allBlank_nil hreturn piece
    rw [reportOfLine?, reportOfLine?, htrim]

theorem parseReport_append (a b : String) :
    parseReport (a ++ "\n" ++ b) = parseReport a ++ parseReport b := by
  have hchars : (a ++ "\n" ++ b).toList = a.toList ++ '\n' :: b.toList := by
    rw [String.toList_append, String.toList_append, List.append_assoc]
    rfl
  rw [parseReport_eq, parseReport_eq, parseReport_eq, hchars, Text.splitAt_append_cons,
    List.filterMap_append]

theorem parseReport_line {line : String} (h : '\n' ∉ line.toList) :
    parseReport line = (reportOfLine? line.toList).toList := by
  rw [parseReport_eq, Text.splitAt_of_not_mem h, List.filterMap_eq_flatMap_toList,
    List.flatMap_singleton]

section places

/-- What is told on one line of what a pod of the disk check printed. -/
structure LineReport where
  pod : String
  line : Nat
  disk : DiskStatus

/-- The one comes before the other: its pod has the lesser name, or its line comes first in the
pod's text. -/
def LineReport.Precedes (report other : LineReport) : Prop :=
  report.pod < other.pod ∨ report.pod = other.pod ∧ report.line < other.line

variable {pod log : String} {checks : Dict String} {report : LineReport}

/-- What is told on the lines of one pod's text. -/
def lineReports (pod log : String) : List LineReport :=
  (Text.lines log.toList).zipIdx.filterMap fun (line, number) =>
    (reportOfLine? line).map (LineReport.mk pod number)

theorem map_disk_lineReports (pod log : String) :
    (lineReports pod log).map (·.disk) = parseReport log := by
  have hlines := List.zipIdx_map_fst 0 (Text.lines log.toList)
  rw [parseReport, ← hlines, List.filterMap_map, lineReports, List.map_filterMap]
  congr 1
  funext ⟨line, number⟩
  simp [Function.comp_def]

theorem mem_lineReports_iff : report ∈ lineReports pod log ↔
    report.pod = pod ∧
      ∃ line, (Text.lines log.toList)[report.line]? = some line ∧ Tells line report.disk := by
  simp only [lineReports, List.mem_filterMap, Prod.exists, List.mem_zipIdx_iff_getElem?,
    Option.map_eq_some_iff, reportOfLine?_eq_some_iff]
  constructor
  · rintro ⟨line, number, hline, disk, htells, rfl⟩
    exact ⟨rfl, line, hline, htells⟩
  · rintro ⟨rfl, line, hline, htells⟩
    exact ⟨line, report.line, hline, report.disk, htells, rfl⟩

theorem pairwise_lineReports (pod log : String) :
    (lineReports pod log).Pairwise LineReport.Precedes := by
  have hnumbers : (Text.lines log.toList).zipIdx.Pairwise fun a b => a.2 < b.2 := by
    rw [← List.pairwise_map, List.zipIdx_map_snd]
    exact List.pairwise_lt_range'
  rw [lineReports, List.pairwise_filterMap]
  refine hnumbers.imp fun hlt report hreport other hother => ?_
  obtain ⟨disk, -, rfl⟩ := Option.map_eq_some_iff.1 hreport
  obtain ⟨otherDisk, -, rfl⟩ := Option.map_eq_some_iff.1 hother
  exact Or.inr ⟨rfl, hlt⟩

/-- What is told on the lines of all pods' texts. -/
def allLineReports (checks : Dict String) : List LineReport :=
  checks.entries.flatMap fun (pod, log) => lineReports pod log

theorem map_disk_allLineReports (checks : Dict String) :
    (allLineReports checks).map (·.disk) = checks.values.flatMap parseReport := by
  rw [allLineReports, List.map_flatMap, Dict.values, List.flatMap_map]
  exact List.flatMap_congr fun entry _ => map_disk_lineReports entry.1 entry.2

theorem mem_allLineReports_iff : report ∈ allLineReports checks ↔
    ∃ log line, checks.find? report.pod = some log ∧
      (Text.lines log.toList)[report.line]? = some line ∧ Tells line report.disk := by
  simp only [allLineReports, List.mem_flatMap, Prod.exists, mem_lineReports_iff,
    Dict.find?_eq_some_iff]
  constructor
  · rintro ⟨pod, log, hlog, rfl, line, hline, htells⟩
    exact ⟨log, line, hlog, hline, htells⟩
  · rintro ⟨log, line, hlog, hline, htells⟩
    exact ⟨report.pod, log, hlog, rfl, line, hline, htells⟩

theorem pairwise_allLineReports (checks : Dict String) :
    (allLineReports checks).Pairwise LineReport.Precedes := by
  rw [allLineReports, List.pairwise_flatMap]
  refine ⟨fun entry _ => pairwise_lineReports entry.1 entry.2, checks.sorted.imp ?_⟩
  intro entry later hlt report hreport other hother
  rw [mem_lineReports_iff] at hreport hother
  exact Or.inl (by rwa [hreport.1, hother.1])

end places

/-- A report is read line by line. Two of them one below the other tell what both tell; a line with
the record of a disk tells of it, and any other may be put in anywhere, or left out. All that the
disk check reports is what is told on the lines of its pods' texts, in the order of the pods' names
and then of the lines. -/
theorem lineLocal_parseReport :
    (∀ a b : String, parseReport (a ++ "\n" ++ b) = parseReport a ++ parseReport b) ∧
    (∀ line : String, '\n' ∉ line.toList → ∀ disk, Tells line.toList disk →
      parseReport line = [disk]) ∧
    (∀ line, Text.AllBlank line → ¬∃ disk, Tells line disk) ∧
    (∀ line : String, '\n' ∉ line.toList → (¬∃ disk, Tells line.toList disk) →
      (∀ a b, parseReport (a ++ "\n" ++ line ++ "\n" ++ b) = parseReport (a ++ "\n" ++ b)) ∧
      (∀ b, parseReport (line ++ "\n" ++ b) = parseReport b) ∧
      (∀ a, parseReport (a ++ "\n" ++ line) = parseReport a)) ∧
    ∀ (c : Console) (spec : ClusterSpec),
      (c.platform.diskChecks.isEmpty = true → c.reportedDisks spec = none) ∧
      (c.platform.diskChecks.isEmpty = false → ∃ reports : List LineReport,
        c.reportedDisks spec = some (reports.map (·.disk)) ∧
        reports.Pairwise LineReport.Precedes ∧
        ∀ report, report ∈ reports ↔
          ∃ log line, c.platform.diskChecks.find? report.pod = some log ∧
            (Text.lines log.toList)[report.line]? = some line ∧ Tells line report.disk) := by
  refine ⟨parseReport_append, ?_, ?_, ?_, ?_⟩
  · intro line hline disk htells
    rw [parseReport_line hline, reportOfLine?_eq_some_iff.2 htells, Option.toList_some]
  · rintro line hblank ⟨disk, htells⟩
    exact not_tells_of_allBlank hblank htells
  · intro line hline hnone
    have hempty : parseReport line = [] := by
      rw [parseReport_line hline, reportOfLine?_eq_none hnone, Option.toList_none]
    refine ⟨fun a b => ?_, fun b => ?_, fun a => ?_⟩
    · rw [parseReport_append, parseReport_append, hempty, List.append_nil, parseReport_append]
    · rw [parseReport_append, hempty, List.nil_append]
    · rw [parseReport_append, hempty, List.append_nil]
  · intro c spec
    rw [Console.reportedDisks, Platform.diskCheckLogs]
    constructor
    · intro hempty
      rw [if_pos hempty]
    · intro hsome
      rw [hsome, if_neg Bool.false_ne_true]
      refine ⟨allLineReports c.platform.diskChecks, ?_, pairwise_allLineReports _,
        fun report => mem_allLineReports_iff⟩
      rw [map_disk_allLineReports]

/-- A record whose size is less than zero. -/
def oddLine : String :=
  "\x7b\"disk\": \"/dev/sdb\", \"sizeGb\": -1\x7d\r"

/-- The odd line and its neighbours may be read without it. -/
theorem lineLocal_parseReport_oddLine :
    (¬∃ disk, Tells oddLine.toList disk) ∧
      parseReport ("[\"/dev/sda\"]\r" ++ "\n" ++ oddLine ++ "\n" ++ "[\"/dev/sdc\", true, 50]") =
        parseReport ("[\"/dev/sda\"]\r" ++ "\n" ++ "[\"/dev/sdc\", true, 50]") ∧
      parseReport "[\"/dev/sda\"]\r" = [⟨"/dev/sda", 0, false⟩] := by
  obtain ⟨-, hone, -, hnone, -⟩ := lineLocal_parseReport
  have hodd : ¬∃ disk, Tells oddLine.toList disk := by
    rintro ⟨disk, htells⟩
    have hread : reportOfLine? oddLine.toList = none := by
      decide +kernel
    rw [reportOfLine?_eq_some_iff.2 htells] at hread
    cases hread
  have hgood : Tells "[\"/dev/sda\"]\r".toList ⟨"/dev/sda", 0, false⟩ :=
    reportOfLine?_eq_some_iff.1 (by decide +kernel)
  exact ⟨hodd, (hnone oddLine (by decide) hodd).1 _ _, hone _ (by decide) _ hgood⟩

end ClusterWatch.Disks
