import TypedRoutes.Command.Report
import TypedRoutes.Kotlin.Unit
import TypedRoutes.Pipeline.Pass

/-!
Checking a manifest: a pass without writing, and what it had to say.
-/
namespace TypedRoutes

open Pipeline

/-- The pass over a manifest with its own Kotlin emitter and the standard lints. It writes nothing,
so it can be looked at as a context. -/
def Manifest.settled (manifest : Manifest) : Context :=
  settle (.ofManifest manifest) standardLints (Kotlin.emitter (.ofSettings manifest.settings))

/-- The names of the declarations that a pass leaves for a later round. -/
def Pipeline.Context.deferred (context : Context) : List String :=
  context.retry.map (·.qualified)

namespace Command

/-- What checking a manifest found: how many declarations and units there are, and what was reported
about them. -/
structure CheckReport where
  configPath : String
  errors : List String
  warnings : List String
  infos : List String
  declarations : Nat
  units : Nat
  deferred : List String
deriving DecidableEq, Repr

/-- A diagnostic with its location on a line of its own. -/
def located (diagnostic : Diagnostic) : String :=
  match diagnostic.location with
  | some location => diagnostic.message ++ "\n  --> " ++ location
  | none => diagnostic.message

/-- Checks a manifest that was given by the path shown in the report. -/
def check (manifest : Manifest) (configPath : String) : CheckReport :=
  let context := manifest.settled
  { configPath
    errors := (context.ofSeverity .error).map located
    warnings := (context.ofSeverity .warning).map located
    infos := (context.ofSeverity .info).map located
    declarations := context.discovered.length
    units := context.units.length
    deferred := context.deferred }

namespace CheckReport

/-- Whether every routed declaration would have a unit in this round. Warnings do not count against
it. -/
def isValid (report : CheckReport) : Bool :=
  report.errors.isEmpty && report.deferred.isEmpty

/-- The report as it is shown, with errors and warnings in front of the result. -/
def lines (report : CheckReport) : Report :=
  report.errors.map .error ++ report.warnings.map .warning ++
    report.infos.map (.out <| "info: " ++ ·) ++
    (if report.errors.isEmpty && report.warnings.isEmpty && report.infos.isEmpty then []
      else [.blank]) ++
    (if report.isValid then [.out ("✓ " ++ report.configPath ++ " is valid")]
      else Report.deferredList report.deferred) ++
    [.blank, .nested "Routes" (toString report.declarations),
      .nested "Units" (toString report.units)]

end CheckReport

end Command

end TypedRoutes
