import TypedRoutes.Command.Report
import TypedRoutes.Pipeline.Context
import TypedRoutes.Route.Build
import TypedRoutes.Text.Numeral

/-!
Concrete paths. The route of one declaration is filled in with values, each of which its field's
type must be able to hold. Of several values for one field the last one counts, though all are
checked.
-/
namespace TypedRoutes.Command

open Route

/-- Why a route has no concrete path: there is no such route, a value is wrong, or one is
missing. -/
inductive RouteError where
  | unknownDeclaration (name : String)
  | unresolved (declaration : String)
  | build (error : BuildError)
  | unknownField (declaration field : String)
  | badValue (field : Field) (value : String)
  | expand (error : ExpandError)
deriving DecidableEq, Repr

def RouteError.message : RouteError → String
  | unknownDeclaration name => "no declaration named '" ++ name ++ "'"
  | unresolved declaration => "'" ++ declaration ++ "' is not resolved yet"
  | build error => error.message
  | unknownField declaration field => "'" ++ declaration ++ "' has no field '" ++ field ++ "'"
  | badValue field value =>
    "'" ++ value ++ "' is not a valid value for '" ++ field.name ++ ": " ++ field.declaredType ++
      "'"
  | expand error => error.message

/-- Whether a value of the given kind can be written as the given text. A field of no kind takes any
text. -/
def accepts : Option Primitive → String → Bool
  | some .boolean, value => value == "true" || value == "false"
  | some .int, value => Text.isSignedInteger 32 value
  | some .long, value => Text.isSignedInteger 64 value
  | some .float, value => Text.isFloat value
  | some .double, value => Text.isFloat value
  | some .string, _ => true
  | none, _ => true

/-- Whether a value goes with a field of the descriptor. It is checked against the first field of
the name. -/
def checkValue (descriptor : Descriptor) (pair : String × String) : Except RouteError Unit :=
  match descriptor.fields.find? (·.name == pair.1) with
  | none => .error (.unknownField descriptor.source.qualified pair.1)
  | some field => if accepts field.kind pair.2 then .ok () else .error (.badValue field pair.2)

/-- The last of the values given for a field, as a later one takes the place of those before it. -/
def lastValue (values : List (String × String)) (field : String) : Option String :=
  values.reverse.lookup field

/-- The concrete path of a declaration, known by its simple or qualified name, for the given values.
All values are checked before the path is put together, those that are replaced by later ones
included. -/
def route (manifest : Manifest) (name : String) (values : List (String × String)) :
    Except RouteError String :=
  match manifest.find? name with
  | none => .error (.unknownDeclaration name)
  | some declaration =>
    if !(Pipeline.Host.ofManifest manifest).isValid declaration then
      .error (.unresolved declaration.qualifiedName)
    else do
      let descriptor ← (Descriptor.ofDeclaration manifest.settings declaration).mapError .build
      values.forM (checkValue descriptor)
      ((Template.ofDescriptor descriptor).expand (lastValue values)).mapError .expand

def routeLines (path : String) : Report :=
  [.out path]

end TypedRoutes.Command
