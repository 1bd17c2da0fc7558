import TypedRoutes.Pipeline.Json
import TypedRoutes.Pipeline.Pass

/-!
Snapshots of a pass: what the context holds after a phase, for looking at a pass phase by phase. A
recorder keeps them, or writes each to a file of its own as its phase completes; neither changes the
context.
-/
namespace TypedRoutes.Pipeline

open Route

/-- What a context held after a phase. Of declarations and units there are only the names that they
go by. -/
structure Snapshot where
  phase : String
  discovered : List DeclarationId
  descriptors : List Descriptor
  /-- The paths of the rendered units. -/
  units : List String
  retry : List DeclarationId
  diagnostics : List Diagnostic
deriving DecidableEq

namespace Snapshot

/-- The snapshot of a context after the phase of the given name. -/
def capture (phase : String) (context : Context) : Snapshot where
  phase := phase
  discovered := context.discovered.map (·.id)
  descriptors := context.descriptors
  units := context.units.map (·.relativePath)
  retry := context.retry
  diagnostics := context.diagnostics

def jsonOfId (id : DeclarationId) : Json :=
  .object [("package", .string id.package), ("name", .string id.name)]

def jsonOfField (field : Field) : Json :=
  .object [
    ("name", .string field.name),
    ("declared_type", .string field.declaredType),
    ("kind", .string (kindTag field.kind)),
    ("encode", .boolean field.encode)]

def jsonOfDescriptor (descriptor : Descriptor) : Json :=
  .object [
    ("route_name", .string descriptor.routeName),
    ("fields", .array (descriptor.fields.map jsonOfField)),
    ("source", jsonOfId descriptor.source)]

def jsonOfDiagnostic (diagnostic : Diagnostic) : Json :=
  .object [
    ("severity", .string diagnostic.severity.tag),
    ("phase", .string diagnostic.phase),
    ("message", .string diagnostic.message),
    ("location", (diagnostic.location.map Json.string).getD .null)]

/-- A member of a snapshot that is left out when it lists nothing. -/
def listed {α : Type} (key : String) (element : α → Json) (elements : List α) :
    List (String × Json) :=
  if elements.isEmpty then [] else [(key, .array (elements.map element))]

/-- A snapshot as JSON. Diagnostics are always there. -/
def json (snapshot : Snapshot) : Json :=
  .object ([("phase", .string snapshot.phase)] ++
    listed "discovered" jsonOfId snapshot.discovered ++
    listed "descriptors" jsonOfDescriptor snapshot.descriptors ++
    listed "units" Json.string snapshot.units ++
    listed "retry" jsonOfId snapshot.retry ++
    [("diagnostics", .array (snapshot.diagnostics.map jsonOfDiagnostic))])

/-- Writes a snapshot to the file of its phase, in a directory that is created if need be. -/
def writeTo (directory : String) (snapshot : Snapshot) : Files.FileAction Unit := do
  Files.FileSystem.createDirectory directory
  Files.FileSystem.writeBytes (Files.Path.join directory (snapshot.phase ++ ".json"))
    (snapshot.json.render 0).toUTF8

/-- The plugin that keeps a snapshot of every phase, in order, in a state of its own. -/
def recorder : Plugin (List Snapshot) where
  name := "snapshot"
  after phase context := do
    modify (· ++ [capture phase context])
    return context

/-- The plugin that writes a snapshot of every phase to a directory. Unlike the one that keeps them
it can fail, with the file system. -/
def filer (directory : String) : Plugin Files.FileSystem where
  name := "snapshot"
  after phase context := do
    Run.ofFiles ((capture phase context).writeTo directory)
    return context

end Snapshot

end TypedRoutes.Pipeline
