import ClusterWatch.Platform.Basic
import ClusterWatch.Text.Blank
import ClusterWatch.Text.Segments

/-!
What the output of a diagnostic says.

Lists come separated by commas, disks also by lines; blanks around an item do not belong to it, and
an item without anything else is none.
-/

namespace ClusterWatch.Diagnostic

/-- Reported by a diagnostic of text that could not run. -/
def pendingText : String :=
  "Pending"

/-- Reported for a database release that the node answers with an error. -/
def notAvailableText : String :=
  "NOTAVAILABLE"

/-- The items between commas, without blanks around them; empty ones are left out. -/
def commaItems (cs : List Char) : List String :=
  (((Text.splitAt ',' cs).map Text.trim).filter (!·.isEmpty)).map String.ofList

/-- The text without its carriage returns. -/
def dropReturns (cs : List Char) : List Char :=
  cs.filter (· ≠ '\r')

/-- The groups in a listing; a placeholder lists none. -/
def groupsOf (output : String) : List String :=
  let listing := Text.trim output.toList
  if String.ofList listing = pendingText then [] else commaItems listing

/-- The disks in a listing of lines and commas. -/
def disksOf (output : String) : List String :=
  (Text.lines (dropReturns output.toList)).flatMap commaItems

/-- The device paths after the first equals sign of a line of the environment file. -/
def devicesOf? (output : String) : Option (List String) :=
  (Text.cutFirst '=' output.toList).map fun (_, value) =>
    commaItems (dropReturns (Text.trim value))

/-- The device paths in the output of a pod. -/
def parseDevices (pod output : String) : Except ExecError (List String) :=
  match devicesOf? output with
  | some devices => .ok devices
  | none => .error (.unparsable pod output)

/-- The grid home in the environment file's line: what follows its equals sign, or all of it. -/
def gridHomeOf (output : String) : String :=
  let line := Text.trim output.toList
  match Text.cutFirst '=' line with
  | some (_, value) => String.ofList (Text.trim value)
  | none => String.ofList line

end ClusterWatch.Diagnostic
