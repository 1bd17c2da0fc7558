import TypedRoutes.Manifest.Basic
import TypedRoutes.Manifest.Error

/-!
What a manifest must satisfy besides its shape: a visible route marker, and names that generated
code can use, each declared once. The first broken rule in document order is reported, keyword
before form before repetition, and a package is looked at after its declaration.
-/
namespace TypedRoutes.Manifest

/-- The source that errors point into, and where in the manifest a check is. -/
structure Scope where
  source : String
  file : String
  path : List String := []

namespace Scope

/-- The scope of a part of the current one. -/
def nested (scope : Scope) (segment : String) : Scope :=
  { scope with path := scope.path ++ [segment] }

/-- Where in the manifest a scope is. -/
def pathText (scope : Scope) : String :=
  "/".intercalate scope.path

/-- What a name of the given kind is called in messages. -/
def describe (scope : Scope) (kind : String) : String :=
  if scope.path.isEmpty then kind else kind ++ " in '" ++ scope.pathText ++ "'"

/-- Whether a name can be used in generated code, and if not why. A keyword is told from a name that
is no identifier. -/
def checkName (scope : Scope) (name kind : String) : Except Error Unit :=
  if Kotlin.isKeyword name then
    .error (.reservedKeyword scope.file name (scope.describe kind) (Span.first? scope.source name))
  else
    match Kotlin.identifierFault? name with
    | some fault =>
      .error (.invalidIdentifier scope.file name (scope.describe kind) fault
        (Span.first? scope.source name))
    | none => .ok ()

/-- The error for a name that is declared again. It points at the last place that gives the name. -/
def repeated (scope : Scope) (name kind : String) : Error :=
  .duplicate scope.file name (scope.describe kind) (Span.last? scope.source name)

/-- Whether properties have usable names, none of them among those seen before or twice. -/
def checkProperties (scope : Scope) : List String → List Property → Except Error Unit
  | _, [] => .ok ()
  | seen, property :: rest => do
    scope.checkName property.name "property"
    if seen.contains property.name then throw (scope.repeated property.name "property")
    scope.checkProperties (seen ++ [property.name]) rest

/-- Whether every segment of a package is usable. The default package has none. -/
def checkPackage (scope : Scope) (package : String) : Except Error Unit :=
  if package = "" then .ok ()
  else (Text.segments package).forM (scope.checkName · "package segment")

/-- Whether declarations have usable names, none of them among the qualified names seen before or
twice, and sound packages and properties. -/
def checkDeclarations (scope : Scope) : List String → List Declaration → Except Error Unit
  | _, [] => .ok ()
  | seen, declaration :: rest => do
    scope.checkName declaration.name "declaration"
    if seen.contains declaration.qualifiedName then
      throw (scope.repeated declaration.name "declaration")
    let inner := scope.nested declaration.name
    inner.checkPackage declaration.package
    inner.checkProperties [] declaration.properties
    scope.checkDeclarations (seen ++ [declaration.qualifiedName]) rest

end Scope

/-- Whether a manifest read from the given source can be generated from. The first rule that is
broken is reported and no other. -/
def validate (manifest : Manifest) (source file : String) : Except Error Unit := do
  let scope : Scope := { source, file }
  if Text.isBlank manifest.settings.routeMarker then
    throw (.invalid file "generator.route_annotation cannot be empty")
  scope.checkName manifest.settings.containerParam "container parameter"
  scope.checkDeclarations [] manifest.declarations

end TypedRoutes.Manifest
