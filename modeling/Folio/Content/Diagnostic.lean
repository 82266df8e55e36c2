/-! # Diagnostics

What a build reports to its operators: a stable code, a severity, a message, and the path and the
context that it is about. -/

namespace Folio

/-- How serious a diagnostic is. -/
inductive Severity where
  | info
  | warning
  | error
deriving DecidableEq, Repr

/-- The name of a severity in reports. -/
def Severity.name : Severity → String
  | .info => "info"
  | .warning => "warning"
  | .error => "error"

/-- The name of a severity in running text. -/
def Severity.title : Severity → String
  | .info => "Info"
  | .warning => "Warning"
  | .error => "Error"

/-- One finding of a build. -/
structure Diagnostic where
  code : String
  severity : Severity
  message : String
  path : Option String := none
  context : Option String := none
deriving DecidableEq, Repr

end Folio
