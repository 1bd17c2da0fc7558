import TypedRoutes.Route.Primitive

/-!
Route descriptors, what the generator knows of one routed declaration: its route name and its
stored fields in declaration order. The declaration it came from is carried along for bookkeeping
and takes no part in comparisons.
-/
namespace TypedRoutes.Route

/-- The identity of a declaration. The default package is empty. -/
structure DeclarationId where
  package : String
  name : String
deriving DecidableEq, Repr

namespace DeclarationId

/-- The dotted form of an identity. -/
def qualified (id : DeclarationId) : String :=
  if id.package = "" then id.name else id.package ++ "." ++ id.name

/-- Identities are ordered by package, then by name, both by code points. -/
def le (first second : DeclarationId) : Bool :=
  first.package < second.package ||
    (first.package == second.package && !(second.name < first.name))

def sort (ids : List DeclarationId) : List DeclarationId :=
  ids.mergeSort le

end DeclarationId

/-- One stored field of a routed declaration, with the primitive that its type stands for, if it is
one. -/
structure Field where
  name : String
  /-- The type as the declaration spells it. -/
  declaredType : String
  /-- What the field is read back as, if anything. -/
  kind : Option Primitive
  /-- Whether its value is form-URL encoded inside a path. -/
  encode : Bool := false
deriving DecidableEq, Repr

/-- One routed declaration, ready to be rendered. All that units and paths are made of is in it. -/
structure Descriptor where
  routeName : String
  fields : List Field
  source : DeclarationId
deriving DecidableEq, Repr

namespace Descriptor

/-- Two descriptors describe the same route, wherever they were declared. -/
def sameRoute (first second : Descriptor) : Bool :=
  first.routeName == second.routeName && first.fields == second.fields

def unitName (descriptor : Descriptor) : String :=
  descriptor.source.name ++ "Destination"

/-- The fields that can be read back. -/
def extractable (descriptor : Descriptor) : List Field :=
  descriptor.fields.filter (·.kind.isSome)

end Descriptor

end TypedRoutes.Route
