import TypedRoutes.Files.Path
import TypedRoutes.Route.Descriptor

/-!
Generated units: one source file per descriptor, with the source files it has to be rebuilt for. An
emitter is a language that units can be rendered in.
-/
namespace TypedRoutes.Pipeline

/-- The source files that a unit depends on. An aggregating unit depends on all there are. -/
structure Dependencies where
  files : List String := []
  aggregating : Bool := false
deriving DecidableEq, Repr

/-- The dependency on every visible source file. -/
def Dependencies.all (files : List String) : Dependencies :=
  ⟨files, true⟩

/-- One rendered source file, with the declaration that it was rendered from. -/
structure GeneratedUnit where
  source : Route.DeclarationId
  package : String
  /-- The file name without extension. -/
  name : String
  extension : String
  content : String
  dependencies : Dependencies := {}
deriving DecidableEq, Repr

/-- The path of a unit below an output directory: the directory of its package, then its file. -/
def GeneratedUnit.relativePath (unit : GeneratedUnit) : String :=
  Files.Path.join (Text.packageDirectory unit.package) (unit.name ++ "." ++ unit.extension)

/-- A target language, which says what a unit holds. Whose unit it is, its package and its name are
not for the language to decide: `Emitter.emit` is the same for all emitters. -/
structure Emitter where
  language : String
  extension : String
  render : Route.Descriptor → String

/-- The unit of a descriptor, with its dependencies left open. There is no other way to a unit, so
what holds of this function holds for every emitter. -/
def Emitter.emit (emitter : Emitter) (descriptor : Route.Descriptor) : GeneratedUnit where
  source := descriptor.source
  package := descriptor.source.package
  name := descriptor.unitName
  extension := emitter.extension
  content := emitter.render descriptor

end TypedRoutes.Pipeline
