import TypedRoutes.Kotlin.Literal
import TypedRoutes.Kotlin.SourceFile
import TypedRoutes.Manifest.Basic
import TypedRoutes.Pipeline.Unit
import TypedRoutes.Route.Template
import TypedRoutes.Text.Uppercase

/-!
Route units in Kotlin: one object per descriptor with a key constant for every field, the route key,
a function from field values to a path, an extractor for every field that can be read back, and the
helper that encodes marked values.
-/
namespace TypedRoutes.Kotlin

open Route Manifest

/-- The comment above every generated file. -/
def generatedHeader : String := "// Code generated by wayfinder. DO NOT EDIT."

/-- The class that encodes values at run time. -/
def urlEncoder : String := "java.net.URLEncoder"

/-- The class that names the encoding's character set. -/
def standardCharsets : String := "java.nio.charset.StandardCharsets"

/-- The nullable form of a type, which is the type itself if it is nullable already. -/
def nullable (type : String) : String :=
  if type.toList.getLast? == some '?' then type else type ++ "?"

/-- The method of a container that reads a value of a type. -/
def readCall (primitive : Primitive) : String :=
  "get" ++ primitive.name

/-- What extractors read from: a qualified type, and the name of the parameter that holds it. -/
structure Container where
  type : String
  param : String
deriving DecidableEq, Repr

namespace Container

def ofSettings (settings : Settings) : Container :=
  ⟨settings.container, settings.containerParam⟩

/-- Whether the type has to be imported, which a type without a package does not. -/
def isQualified (container : Container) : Bool :=
  container.type.toList.contains '.'

end Container

/-- The constant that holds the key of a field, named by the uppercase name of the field. Fields
whose names differ in case only get constants of one name. -/
def keyConstant (field : Field) : Property where
  name := Text.upper field.name
  type := "String"
  initializer := literal field.name

/-- The function that returns the route key, whose slots are text and not interpolated. -/
def destinationFunction (template : Template) : Function where
  name := "destination"
  returns := some "String"
  body := [.line ("return " ++ literal template.key)]

/-- The route path as a string template: the screen is literal text, every slot an interpolation. -/
def pathLiteral (template : Template) : String :=
  "\"" ++ escape template.screen ++
    String.join (template.slots.map fun slot => "/$\x7b" ++ slot.reference ++ "\x7d") ++ "\""

/-- The function from field values to a path. A parameter has the non-null form of its field's type,
so that every interpolated segment holds a value. -/
def routeFunction (descriptor : Descriptor) : Function where
  name := "route"
  params := descriptor.fields.map fun field => ⟨field.name, nonNullType field.declaredType⟩
  returns := some "String"
  body := [.line ("return " ++ pathLiteral (Template.ofDescriptor descriptor))]

/-- The function that reads a field back from a container, if its type can be read. It may find
nothing, so what it returns is nullable. -/
def extractor? (container : Container) (field : Field) : Option Function :=
  field.kind.map fun primitive => {
    name := field.name
    params := [⟨container.param, Text.shortName container.type⟩]
    returns := some (nullable primitive.name)
    body := [.line ("return " ++ container.param ++ "." ++ readCall primitive ++ "(" ++
      literal field.name ++ ")")] }

/-- The helper that encodes a value the way concrete paths do. It is there in every unit, whether or
not a field is encoded. -/
def encodeFunction : Function where
  name := "encodeUrl"
  receiver := some "String"
  isPrivate := true
  returns := some "String"
  body := [
    .guarded "this == \"\"" ["return \"\""],
    .line ("return " ++ Text.shortName urlEncoder ++ ".encode(this, " ++
      Text.shortName standardCharsets ++ ".UTF_8.toString())")]

/-- The object of a descriptor: a constant for every field, the two functions for templates, the
extractors and the helper. -/
def routeObject (container : Container) (descriptor : Descriptor) : Object where
  name := descriptor.unitName
  properties := descriptor.fields.map keyConstant
  functions := [destinationFunction (Template.ofDescriptor descriptor), routeFunction descriptor] ++
    descriptor.fields.filterMap (extractor? container) ++ [encodeFunction]

/-- The source file of a descriptor. The container is imported only where an extractor uses it. -/
def routeFile (container : Container) (descriptor : Descriptor) : SourceFile :=
  let file := (({ package := descriptor.source.package } : SourceFile).addImport urlEncoder)
    |>.addImport standardCharsets
  let file :=
    if !descriptor.extractable.isEmpty && container.isQualified then file.addImport container.type
    else file
  file.add [(routeObject container descriptor).fragment]

/-- Besides its imports a generated file holds the object and nothing else. -/
theorem routeFile_body (container : Container) (descriptor : Descriptor) :
    (routeFile container descriptor).body = [[(routeObject container descriptor).fragment]] := by
  simp only [routeFile]
  split <;> rfl

/-- Kotlin as a target language. A unit is its source file below the header. -/
def emitter (container : Container) : Pipeline.Emitter where
  language := "kotlin"
  extension := "kt"
  render descriptor := (routeFile container descriptor).renderBelow generatedHeader

end TypedRoutes.Kotlin
