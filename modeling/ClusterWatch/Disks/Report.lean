import ClusterWatch.Json.Reader
import ClusterWatch.Status.Basic
import ClusterWatch.Text.Segments

/-!
Reports of the disk check.

A disk check prints one JSON record a line, such as the device, whether it is valid and its size.
A line that holds no such record is passed over and leaves its neighbours alone.
-/

namespace ClusterWatch.Disks

def reportFields : List Json.Field :=
  [⟨"disk", .required⟩, ⟨"valid", .defaulted⟩, ⟨"sizeGb", .defaulted⟩]

def reportOfJson? (json : Json) : Option DiskStatus := do
  match ← json.slots reportFields with
  | [some disk, valid, sizeGb] =>
    return { name := ← disk.text?
             sizeGb := ← Json.default? 0 Json.uint64? sizeGb
             valid := ← Json.default? false Json.bool? valid }
  | _ => none

def reportOfLine? (line : List Char) : Option DiskStatus := do
  reportOfJson? (← Json.ofChars? (Text.trim line))

/-- The disks that the lines of a report tell of, in order. -/
def parseReport (output : String) : List DiskStatus :=
  (Text.lines output.toList).filterMap reportOfLine?

end ClusterWatch.Disks
