import TypedRoutes.Route.Descriptor
import TypedRoutes.Text.FormUrl

/-!
Route templates: a screen name and one slot per field. The key names the slots, the path refers to
their values the way generated code does, and expansion puts concrete values in. With no slots all
three are the bare screen name.
-/
namespace TypedRoutes.Route

/-- The call that encodes a value in generated code. -/
def encodeCall : String := "encodeUrl()"

/-- One slot of a template: the name of a field, and whether its value is encoded. -/
structure Slot where
  name : String
  encode : Bool
deriving DecidableEq, Repr

/-- The expression for the value of a slot, as code. -/
def Slot.reference (slot : Slot) : String :=
  if slot.encode then slot.name ++ "." ++ encodeCall else slot.name

/-- A screen name and its slots in order. Keys and paths are spelled from it, and concrete paths as
well. -/
structure Template where
  screen : String
  slots : List Slot
deriving DecidableEq, Repr

/-- Why a template has no concrete path. -/
inductive ExpandError where
  | missingValue (field : String)
deriving DecidableEq, Repr

def ExpandError.message : ExpandError → String
  | .missingValue field => "no value for field '" ++ field ++ "'"

namespace Template

/-- The template of a descriptor, one slot per field. -/
def ofDescriptor (descriptor : Descriptor) : Template :=
  ⟨descriptor.routeName, descriptor.fields.map fun field => ⟨field.name, field.encode⟩⟩

/-- The screen followed by one path segment per slot. -/
def assemble (template : Template) (segment : Slot → String) : String :=
  template.screen ++ String.join (template.slots.map fun slot => "/" ++ segment slot)

/-- The route key, such as `home/{id}`. -/
def key (template : Template) : String :=
  template.assemble fun slot => "\x7b" ++ slot.name ++ "\x7d"

/-- The route path, such as `home/${id}`. -/
def path (template : Template) : String :=
  template.assemble fun slot => "$\x7b" ++ slot.reference ++ "\x7d"

/-- A slot's value as it stands in a concrete path, encoded when the slot asks for it. -/
def segment (slot : Slot) (value : String) : String :=
  if slot.encode then Text.FormUrl.encode value else value

/-- The segments of the slots in order, or the first slot without a value. -/
def expandSlots (value : String → Option String) : List Slot → Except ExpandError String
  | [] => .ok ""
  | slot :: rest =>
    match value slot.name with
    | none => .error (.missingValue slot.name)
    | some text => (expandSlots value rest).map (("/" ++ segment slot text) ++ ·)

/-- The concrete path for the given values, or the first slot without one. -/
def expand (template : Template) (value : String → Option String) : Except ExpandError String :=
  (expandSlots value template.slots).map (template.screen ++ ·)

end Template

def Descriptor.key (descriptor : Descriptor) : String :=
  (Template.ofDescriptor descriptor).key

def Descriptor.path (descriptor : Descriptor) : String :=
  (Template.ofDescriptor descriptor).path

end TypedRoutes.Route
