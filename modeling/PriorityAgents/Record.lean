/-!
Diagnostic records: what an operation tells its observer about itself while it runs.
-/

set_option autoImplicit false

namespace PriorityAgents

inductive Severity where
  | error
  | warn
  | info
  | debug
  | trace
deriving DecidableEq, Repr, Inhabited

namespace Severity

/-- The position of a severity in the order of gravity; the gravest comes first. -/
def rank : Severity → Nat
  | .error => 0
  | .warn => 1
  | .info => 2
  | .debug => 3
  | .trace => 4

def label : Severity → String
  | .error => "ERROR"
  | .warn => "WARN"
  | .info => "INFO"
  | .debug => "DEBUG"
  | .trace => "TRACE"

end Severity

structure Record where
  severity : Severity
  message : String
  fields : List (String × String)
deriving DecidableEq, Repr, Inhabited

namespace Record

/-- A record reaches an observer that asked for its severity or for a less grave one. -/
def shownAt (threshold : Severity) (record : Record) : Bool :=
  record.severity.rank ≤ threshold.rank

/-- A record on one line: severity, message, then each fact as `name=value`. -/
def line (record : Record) : String :=
  record.fields.foldl (fun written field => written ++ " " ++ field.1 ++ "=" ++ field.2)
    (record.severity.label ++ " " ++ record.message)

end Record

end PriorityAgents
