import ClusterWatch.Text.Blank

/-!
What a node reports about itself: the health of its clusterware and the open mode of its instance.

Both are read from a diagnostic's output by a function that never fails, since unexpected output
is an answer too.
-/

namespace ClusterWatch

namespace Text

/-- The text holds the other text somewhere. -/
def holds (part : List Char) : List Char → Bool
  | [] => part.isEmpty
  | c :: cs => part.isPrefixOf (c :: cs) || holds part cs

/-- The ASCII letters of a text raised, and the blanks around it dropped. -/
def raised (s : String) : String :=
  String.ofList ((trim s.toList).map Char.toUpper)

end Text

/-- Health of the clusterware on a node; `pending` means that there is no answer yet. -/
inductive ClusterHealth where
  | healthy
  | pending
  | notAvailable
deriving DecidableEq, Repr

namespace ClusterHealth

def keyword : ClusterHealth → String
  | healthy => "HEALTHY"
  | pending => "PENDING"
  | notAvailable => "NOTAVAILABLE"

/-- The health that a report tells; anything but a healthy or pending report is a bad one. -/
def parse (output : String) : ClusterHealth :=
  match Text.raised output with
  | "HEALTHY" => healthy
  | "PENDING" => pending
  | _ => notAvailable

theorem parse_keyword (h : ClusterHealth) : parse h.keyword = h := by
  cases h <;> decide

end ClusterHealth

/-- Open mode of the database instance on a node; `pending` means that there is no answer yet, and
`other` keeps an unusual mode as it was reported. -/
inductive InstanceState where
  | opened
  | mounted
  | pending
  | notAvailable
  | other (mode : String)
deriving DecidableEq, Repr

namespace InstanceState

def keyword : InstanceState → String
  | opened => "OPEN"
  | mounted => "MOUNTED"
  | pending => "PENDING"
  | notAvailable => "NOTAVAILABLE"
  | other mode => mode

/-- The open mode that a report tells. A report of an error, or an empty one, is no mode. -/
def parse (output : String) : InstanceState :=
  if Text.holds "ERROR".toList output.toList then notAvailable
  else
    match Text.raised output with
    | "OPEN" => opened
    | "MOUNTED" => mounted
    | "PENDING" => pending
    | "" => notAvailable
    | "NOTAVAILABLE" => notAvailable
    | _ => other (Text.trimmed output)

example : parse " open\n" = opened ∧ parse "READ ONLY " = other "READ ONLY" := by decide
example : parse "xERRORx" = notAvailable ∧ parse "error" = other "error" := by decide

end InstanceState

end ClusterWatch
