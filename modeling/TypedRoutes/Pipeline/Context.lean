import TypedRoutes.Manifest.Basic
import TypedRoutes.Pipeline.Diagnostic
import TypedRoutes.Pipeline.Unit

/-!
The state of one pass, and the host that a pass asks about declarations. A context starts empty and
is handed from phase to phase; nothing in it outlives the pass.
-/
namespace TypedRoutes.Pipeline

open Manifest

/-- Where declarations come from, and who says whether they are complete. A pass asks nothing else
of it. -/
structure Host where
  settings : Settings
  /-- The declarations that carry a marker of the given short name, in source order. -/
  marked : String → List Declaration
  sourceFiles : List String
  /-- Whether a declaration is resolved well enough to be processed. -/
  isValid : Declaration → Bool

/-- A manifest as a host. Whether a declaration is resolved is judged by the marker in the settings
of the manifest. -/
def Host.ofManifest (manifest : Manifest) : Host where
  settings := manifest.settings
  marked := manifest.marked
  sourceFiles := manifest.sourceFiles
  isValid declaration := declaration.isResolved manifest.settings.routeMarker

/-- The state of a pass. Each phase fills in some of it, and plugins may change all of it. -/
structure Context where
  settings : Settings
  sourceFiles : List String := []
  /-- The declarations that carry the route marker. -/
  discovered : List Declaration := []
  /-- The declarations that the host does not yet vouch for. -/
  invalid : List Route.DeclarationId := []
  /-- The declarations without a descriptor though the host vouches for them. -/
  rejected : List Route.DeclarationId := []
  descriptors : List Route.Descriptor := []
  units : List GeneratedUnit := []
  /-- The declarations to process again in a later round. -/
  retry : List Route.DeclarationId := []
  diagnostics : List Diagnostic := []

namespace Context

/-- The context that a pass over a host starts from. -/
def initial (host : Host) : Context :=
  { settings := host.settings }

/-- A context with one more diagnostic behind those it has. -/
def report (context : Context) (diagnostic : Diagnostic) : Context :=
  { context with diagnostics := context.diagnostics ++ [diagnostic] }

/-- The diagnostics of one severity, in the order in which they were reported. -/
def ofSeverity (context : Context) (severity : Severity) : List Diagnostic :=
  context.diagnostics.filter (·.severity == severity)

end Context

end TypedRoutes.Pipeline
