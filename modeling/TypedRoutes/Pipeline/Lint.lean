import TypedRoutes.Pipeline.Diagnostic
import TypedRoutes.Route.Descriptor
import TypedRoutes.Text.Uppercase

/-!
Lints look at all descriptors of a pass and report. None of them takes a descriptor out, so what is
reported here still reaches the output.
-/
namespace TypedRoutes.Pipeline

open Route

/-- A check on all descriptors of a pass. It can report but change nothing. -/
structure Lint where
  name : String
  description : String
  check : List Descriptor → List Diagnostic

/-- The phase that lints report under. -/
def lintPhase : String := "validate"

/-- Where a diagnostic about a field is located: the name of the declaration and that of the
field. -/
def fieldLocation (source : DeclarationId) (field : Field) : String :=
  source.qualified ++ "." ++ field.name

/-- The name of the constant that holds a field's key. -/
def constantName (field : Field) : String :=
  Text.upper field.name

/-- The note on a field that cannot be read back. -/
def unsupportedField (source : DeclarationId) (field : Field) : Diagnostic where
  severity := .info
  phase := lintPhase
  message := "field '" ++ field.name ++ "' has unsupported type '" ++ field.declaredType ++
    "', no extractor is generated"
  location := some (fieldLocation source field)

/-- Notes every field that gets no extractor. -/
def unsupportedFieldType : Lint where
  name := "unsupported-field-type"
  description := "Note fields whose type has no extractor"
  check descriptors := descriptors.flatMap fun descriptor =>
    (descriptor.fields.filter (·.kind.isNone)).map (unsupportedField descriptor.source)

/-- The warning on a field whose constant the field of the given name has taken before. -/
def constantTaken (source : DeclarationId) (first : String) (field : Field) : Diagnostic where
  severity := .warning
  phase := lintPhase
  message := "fields '" ++ first ++ "' and '" ++ field.name ++ "' both declare constant '" ++
    constantName field ++ "'"
  location := some (fieldLocation source field)

/-- Warnings on fields whose constants are taken. The table has every constant seen so far with the
name of the field that was the first to declare it. -/
def collisions (source : DeclarationId) (taken : List (String × String)) :
    List Field → List Diagnostic
  | [] => []
  | field :: rest =>
    match taken.lookup (constantName field) with
    | some first => constantTaken source first field :: collisions source taken rest
    | none => collisions source ((constantName field, field.name) :: taken) rest

/-- Warns of fields of one declaration that declare the same constant. -/
def constantCollision : Lint where
  name := "constant-collision"
  description := "Detect fields whose key constants would clash"
  check descriptors := descriptors.flatMap fun descriptor =>
    collisions descriptor.source [] descriptor.fields

/-- Puts a declaration under the route name that it uses: behind the users that the name has, or
behind all names as the first user of its own. -/
def addUser (routeName : String) (user : DeclarationId) :
    List (String × List DeclarationId) → List (String × List DeclarationId)
  | [] => [(routeName, [user])]
  | (name, users) :: rest =>
    if name == routeName then (name, users ++ [user]) :: rest
    else (name, users) :: addUser routeName user rest

/-- The users of every route name. Names come in the order of their first use. -/
def routeUsers (descriptors : List Descriptor) : List (String × List DeclarationId) :=
  descriptors.foldl (fun groups descriptor => addUser descriptor.routeName descriptor.source groups)
    []

/-- The warning on a user of a route name that another one has taken before. -/
def routeTaken (routeName : String) (first user : DeclarationId) : Diagnostic where
  severity := .warning
  phase := lintPhase
  message := "route '" ++ routeName ++ "' of '" ++ user.qualified ++ "' is already used by '" ++
    first.qualified ++ "'"
  location := some user.qualified

/-- The warnings on all users of a route name but the first. -/
def reuses : String × List DeclarationId → List Diagnostic
  | (_, []) => []
  | (routeName, first :: rest) => rest.map (routeTaken routeName first)

/-- Warns of declarations that reuse a route name, name by name. -/
def duplicateRoute : Lint where
  name := "duplicate-route"
  description := "Detect route names used by more than one declaration"
  check descriptors := (routeUsers descriptors).flatMap reuses

/-- The lints of every pass, in order. -/
def standardLints : List Lint := [unsupportedFieldType, constantCollision, duplicateRoute]

end TypedRoutes.Pipeline
