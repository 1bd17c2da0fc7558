import TypedRoutes.Text.Dotted

/-!
The types that a route field can be read back as. A declared type counts as a primitive by its
simple name alone: its qualifier, its type arguments and one trailing nullable mark are set aside,
and the name must then match exactly.
-/
namespace TypedRoutes.Route

/-- A type with a typed read on the argument container. A field of any other type cannot be read
back. -/
inductive Primitive where
  | string
  | boolean
  | int
  | float
  | double
  | long
deriving DecidableEq, Repr

namespace Primitive

/-- Every primitive, in the order they are tried. -/
def all : List Primitive := [.string, .boolean, .int, .float, .double, .long]

/-- The simple name a primitive is declared by. -/
def name : Primitive → String
  | .string => "String"
  | .boolean => "Boolean"
  | .int => "Int"
  | .float => "Float"
  | .double => "Double"
  | .long => "Long"

def ofName? (simple : String) : Option Primitive :=
  all.find? (·.name == simple)

private theorem ofName?_name (primitive : Primitive) : ofName? primitive.name = some primitive := by
  cases primitive <;> simp [ofName?, all, name]

end Primitive

/-- A declared type without its nullable mark. Only one mark is removed. -/
def nonNullType (declared : String) : String :=
  match declared.toList.getLast? with
  | some '?' => String.ofList declared.toList.dropLast
  | _ => declared

/-- The simple name of a declared type, without qualifier, type arguments and nullable mark. -/
def simpleTypeName (declared : String) : String :=
  String.ofList (Text.afterLast '.' (Text.beforeFirst '<' (nonNullType declared).toList))

/-- The primitive that a declared type stands for, `none` for any other type. -/
def primitiveOf? (declared : String) : Option Primitive :=
  Primitive.ofName? (simpleTypeName declared)

theorem nonNullType_marked (declared : String) : nonNullType (declared ++ "?") = declared := by
  simp [nonNullType]

theorem nonNullType_unmarked {declared : String} (unmarked : declared.toList.getLast? ≠ some '?') :
    nonNullType declared = declared := by
  unfold nonNullType
  split
  · rename_i marked
    exact absurd marked unmarked
  · rfl

/-- A declared type is its non-null form, with or without a mark. -/
theorem nonNullType_splits (declared : String) :
    declared = nonNullType declared ∨ declared = nonNullType declared ++ "?" := by
  by_cases marked : declared.toList.getLast? = some '?'
  · obtain ⟨front, spelled⟩ := List.getLast?_eq_some_iff.mp marked
    have text : declared = String.ofList front ++ "?" := by
      apply String.toList_inj.mp
      simp [spelled]
    rw [text, nonNullType_marked]
    exact .inr rfl
  · exact .inl (nonNullType_unmarked marked).symm

/-- A declared type stands for the primitive of its simple name. -/
theorem primitiveOf?_iff {declared : String} {primitive : Primitive} :
    primitiveOf? declared = some primitive ↔ simpleTypeName declared = primitive.name := by
  constructor
  · intro found
    unfold primitiveOf? Primitive.ofName? at found
    have named := List.find?_some found
    rw [beq_iff_eq] at named
    exact named.symm
  · intro named
    rw [primitiveOf?, named, Primitive.ofName?_name]

/-- The name of a field's kind in reports. -/
def kindLabel : Option Primitive → String
  | some .string => "string"
  | some .boolean => "bool"
  | some .int => "int"
  | some .float => "float"
  | some .double => "double"
  | some .long => "long"
  | none => "unsupported"

/-- The name of a field's kind in snapshots. -/
def kindTag : Option Primitive → String
  | some .string => "String"
  | some .boolean => "Bool"
  | some .int => "Int"
  | some .float => "Float"
  | some .double => "Double"
  | some .long => "Long"
  | none => "Unsupported"

end TypedRoutes.Route
