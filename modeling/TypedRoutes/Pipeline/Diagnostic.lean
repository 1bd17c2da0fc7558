/-!
Diagnostics: what a pass has to say about declarations and about itself. A diagnostic never stops a
pass; errors tell of declarations that the pass had to leave out.
-/
namespace TypedRoutes.Pipeline

/-- How much a diagnostic matters. No severity stops a pass. -/
inductive Severity where
  /-- A declaration could not be processed. -/
  | error
  /-- The output may not be what was meant. -/
  | warning
  /-- Something worth knowing. -/
  | info
deriving DecidableEq, Repr

/-- The name of a severity in messages. -/
def Severity.label : Severity → String
  | .error => "error"
  | .warning => "warning"
  | .info => "info"

/-- The name of a severity in snapshots. -/
def Severity.tag : Severity → String
  | .error => "Error"
  | .warning => "Warning"
  | .info => "Info"

/-- A message of a phase, about a declaration, a field, or nothing in particular. -/
structure Diagnostic where
  severity : Severity
  phase : String
  message : String
  location : Option String := none
deriving DecidableEq, Repr

/-- A diagnostic on one line. -/
def Diagnostic.display (diagnostic : Diagnostic) : String :=
  diagnostic.severity.label ++ ": " ++ diagnostic.message ++
    match diagnostic.location with
    | some location => " (at " ++ location ++ ")"
    | none => ""

end TypedRoutes.Pipeline
