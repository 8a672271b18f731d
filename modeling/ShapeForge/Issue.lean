/-!
# Issues

Problems found while generating, with their severity and place.
-/

namespace ShapeForge

inductive Severity where
  | error
  | warning
  | info
  | critical
  deriving DecidableEq, Repr, Inhabited

namespace Severity

def name : Severity → String
  | .error => "error"
  | .warning => "warning"
  | .info => "info"
  | .critical => "critical"

def rank : Severity → Nat
  | .info => 0
  | .warning => 1
  | .error => 2
  | .critical => 3

def all : List Severity := [.error, .warning, .info, .critical]

def ofNumber? (number : Int) : Option Severity :=
  if number < 0 then none else all[number.toNat]?

end Severity

structure Issue where
  path : String
  message : String
  /-- `none` for a severity that is not known. -/
  severity : Option Severity
  line : Int := 0
  file : String := ""
  deriving Repr, Inhabited, DecidableEq

namespace Issue

def location (issue : Issue) : String :=
  if issue.line == 0 then ""
  else if issue.file.isEmpty then toString issue.line
  else issue.file ++ ":" ++ toString issue.line

def severityName (issue : Issue) : String :=
  (issue.severity.map Severity.name).getD "unknown"

/-- The rank of the severity, below all others where it is not known. -/
def rank (issue : Issue) : Int :=
  (issue.severity.map fun severity => (severity.rank : Int)).getD (-1)

def text (issue : Issue) : String :=
  issue.severityName ++ ": " ++
    (if issue.line == 0 then "" else issue.location ++ ": ") ++
    issue.path ++ ": " ++ issue.message

end Issue

end ShapeForge
