import TypedRoutes.Manifest.Basic
import TypedRoutes.Route.Template

/-!
Descriptors from declarations. The route name is the first argument of the route marker, verbatim,
and every stored property becomes a field.
-/
namespace TypedRoutes.Route

open Manifest

/-- Why a declaration has no descriptor. Each cause names the declaration that it is about. -/
inductive BuildError where
  | notRouted (id : DeclarationId)
  | unresolvedRouteName (id : DeclarationId)
  | emptyRouteName (id : DeclarationId)
  | unresolvedType (id : DeclarationId) (field : String)
deriving DecidableEq, Repr

def BuildError.message : BuildError → String
  | notRouted id => "'" ++ id.qualified ++ "' has no route annotation"
  | unresolvedRouteName id =>
    "route annotation on '" ++ id.qualified ++ "' has no resolved argument"
  | emptyRouteName id => "route name of '" ++ id.qualified ++ "' is empty"
  | unresolvedType id field =>
    "property '" ++ field ++ "' of '" ++ id.qualified ++ "' has no resolved type"

/-- The field of a stored property. The type is kept as it was declared, and its kind is read off
it. -/
def Field.ofProperty (id : DeclarationId) (encodeMarker : String) (property : Property) :
    Except BuildError Field :=
  match property.type with
  | none => .error (.unresolvedType id property.name)
  | some type => .ok {
      name := property.name
      declaredType := type
      kind := primitiveOf? type
      encode := property.hasMarker encodeMarker }

/-- The descriptor of a declaration under the given settings. The route name is checked before the
types of properties are. -/
def Descriptor.ofDeclaration (settings : Settings) (declaration : Declaration) :
    Except BuildError Descriptor :=
  let id := declaration.id
  match declaration.marker? settings.routeMarker with
  | none => .error (.notRouted id)
  | some marker =>
    match marker.args.head? with
    | none => .error (.unresolvedRouteName id)
    | some routeName =>
      if Text.isBlank routeName then .error (.emptyRouteName id)
      else do
        let fields ←
          declaration.storedProperties.mapM (Field.ofProperty id settings.encodeMarker)
        return { routeName, fields, source := id }

end TypedRoutes.Route
