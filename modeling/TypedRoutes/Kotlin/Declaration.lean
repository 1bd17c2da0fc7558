import TypedRoutes.Layout.Builder

/-!
The Kotlin declarations that route units are made of: read-only properties, functions with block
bodies, and objects. Each lowers to layout fragments.
-/
namespace TypedRoutes.Kotlin

open Layout

/-- Kotlin coding conventions: four spaces. -/
def indent : Indent := .spaces 4

/-- A read-only property with an initializer. Type and initializer are code already and are printed
as they stand. -/
structure Property where
  name : String
  type : String
  initializer : String
deriving DecidableEq, Repr

def Property.line (property : Property) : String :=
  "val " ++ property.name ++ ": " ++ property.type ++ " = " ++ property.initializer

def Property.fragment (property : Property) : Fragment :=
  .line property.line

/-- A parameter of a function, with its type as it is printed. -/
structure Param where
  name : String
  type : String
deriving DecidableEq, Repr

/-- A parameter as it is declared. -/
def Param.text (param : Param) : String :=
  param.name ++ ": " ++ param.type

/-- A statement in the body of a function. -/
inductive Statement where
  /-- A statement on a line of its own. -/
  | line (text : String)
  /-- Lines run under a condition. -/
  | guarded (condition : String) (lines : List String)
deriving DecidableEq, Repr

def Statement.fragment : Statement → Fragment
  | .line text => .line text
  | .guarded condition lines =>
    .block ("if (" ++ condition ++ ") \x7b") (lines.map .line) (some "\x7d")

/-- A function with a block body, on a receiver type when it is an extension. -/
structure Function where
  name : String
  receiver : Option String := none
  isPrivate : Bool := false
  params : List Param := []
  returns : Option String := none
  body : List Statement := []
deriving DecidableEq, Repr

/-- The header line of a function, up to its opening brace. It quotes names and types as they are,
and is one line only if they have no line breaks. -/
def Function.signature (function : Function) : String :=
  (if function.isPrivate then "private " else "") ++ "fun " ++
    (match function.receiver with | some type => type ++ "." | none => "") ++
    function.name ++ "(" ++ ", ".intercalate (function.params.map Param.text) ++ ")" ++
    (match function.returns with | some type => ": " ++ type | none => "") ++ " \x7b"

def Function.fragment (function : Function) : Fragment :=
  .block function.signature (function.body.map Statement.fragment) (some "\x7d")

/-- An object with its properties and functions, in the order in which they are printed. -/
structure Object where
  name : String
  properties : List Property := []
  functions : List Function := []
deriving DecidableEq, Repr

/-- Functions below what is already in a body: each after a blank line, except that a body never
opens with one. -/
def appendFunctions : List Fragment → List Function → List Fragment
  | body, [] => body
  | body, function :: rest =>
    appendFunctions ((if body.isEmpty then [] else body ++ [.blank]) ++ [function.fragment]) rest

/-- The layout of an object: its properties as one group, then its functions. The braces are part of
the layout, so they match whatever is inside. -/
def Object.fragment (object : Object) : Fragment :=
  .block ("object " ++ object.name ++ " \x7b")
    (appendFunctions (object.properties.map (·.fragment)) object.functions) (some "\x7d")

/-- The text of an object on its own. -/
def Object.text (object : Object) : String :=
  Builder.layOut indent [object.fragment]

end TypedRoutes.Kotlin
