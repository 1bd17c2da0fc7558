import TypedRoutes.Files.Path
import TypedRoutes.Route.Descriptor
import TypedRoutes.Text.Blank
import TypedRoutes.Text.Dotted

/-!
Manifests: generator settings and the declarations that a host resolved, in source order. Markers
are recognised by short name, and only a declaration's own stored properties can become fields.
-/
namespace TypedRoutes.Manifest

/-- The settings of a generator run, all of which have defaults. -/
structure Settings where
  /-- The short name of the route marker. -/
  routeMarker : String := "Destination"
  /-- The short name of the marker of encoded fields. -/
  encodeMarker : String := "EncodeUrl"
  /-- The qualified type that extractors read from. -/
  container : String := "android.os.Bundle"
  /-- The parameter name of the container in extractors. -/
  containerParam : String := "bundle"
  /-- The output directory, relative to the manifest. -/
  outDir : String := "build/generated/wayfinder"
deriving DecidableEq, Repr

/-- One annotation of a declaration or property, with the argument values that could be resolved. -/
structure Marker where
  name : String
  args : List String := []
deriving DecidableEq, Repr

/-- The name of a marker without its package. -/
def Marker.shortName (marker : Marker) : String :=
  Text.shortName marker.name

/-- A property of a declaration, stored or not, as far as it could be resolved. -/
structure Property where
  name : String
  /-- The type, absent when it could not be resolved. -/
  type : Option String := none
  markers : List Marker := []
  /-- The receiver type of an extension property. -/
  extension : Option String := none
  inherited : Bool := false
deriving DecidableEq, Repr

namespace Property

/-- Whether the declaration itself holds a value for the property: it is neither inherited nor an
extension. -/
def isStored (property : Property) : Bool :=
  property.extension.isNone && !property.inherited

/-- Whether the property has a type that shows. -/
def isResolved (property : Property) : Bool :=
  property.type.any (!Text.isBlank ·)

/-- Whether a marker of the given short name marks the property. -/
def hasMarker (property : Property) (short : String) : Bool :=
  property.markers.any (·.shortName == short)

end Property

/-- A declaration as its host resolved it. -/
structure Declaration where
  name : String
  package : String := ""
  /-- The source file, if the host knows it. -/
  file : Option String := none
  markers : List Marker := []
  properties : List Property := []
deriving DecidableEq, Repr

namespace Declaration

def id (declaration : Declaration) : Route.DeclarationId :=
  ⟨declaration.package, declaration.name⟩

/-- The name of a declaration with its package. -/
def qualifiedName (declaration : Declaration) : String :=
  declaration.id.qualified

/-- The first marker of the given short name. Later ones are not looked at. -/
def marker? (declaration : Declaration) (short : String) : Option Marker :=
  declaration.markers.find? (·.shortName == short)

/-- The properties that can become fields, in the order of the declaration. -/
def storedProperties (declaration : Declaration) : List Property :=
  declaration.properties.filter (·.isStored)

/-- Whether everything a route needs has been resolved: the marker has an argument, if it is there
at all, and every property has a type, stored or not. -/
def isResolved (declaration : Declaration) (routeMarker : String) : Bool :=
  (declaration.marker? routeMarker).all (!·.args.isEmpty) &&
    declaration.properties.all (·.isResolved)

end Declaration

end TypedRoutes.Manifest

namespace TypedRoutes

/-- All that a generator is told: settings and declarations in document order. -/
structure Manifest where
  settings : Manifest.Settings := {}
  declarations : List Manifest.Declaration := []
deriving DecidableEq, Repr

namespace Manifest

/-- The declarations that carry a marker of the given short name. -/
def marked (manifest : Manifest) (short : String) : List Declaration :=
  manifest.declarations.filter fun declaration => (declaration.marker? short).isSome

/-- The source files of all declarations, each once and in its first spelling. -/
def sourceFiles (manifest : Manifest) : List String :=
  Files.Path.distinct (manifest.declarations.filterMap (·.file))

/-- The first declaration known by a name, simple or qualified. One that comes earlier can hide one
whose own name it is. -/
def find? (manifest : Manifest) (name : String) : Option Declaration :=
  manifest.declarations.find? fun declaration =>
    declaration.name == name || declaration.qualifiedName == name

end Manifest

end TypedRoutes
