/-!
Names that generated code can use as identifiers. A name is usable when it is no hard keyword of
Kotlin and is made of ASCII letters, digits and underscores in a form the language accepts.
-/
namespace TypedRoutes.Kotlin

/-- The hard keywords, which cannot name anything without quotation. -/
def keywords : List String := [
  "as", "break", "class", "continue", "do", "else", "false", "for", "fun", "if", "in",
  "interface", "is", "null", "object", "package", "return", "super", "this", "throw", "true",
  "try", "typealias", "typeof", "val", "var", "when", "while"]

/-- Whether a name is a hard keyword. -/
def isKeyword (name : String) : Bool :=
  keywords.contains name

/-- What is wrong with a name that is no identifier. -/
inductive IdentifierFault where
  | empty
  | badStart
  | badCharacter
  | onlyUnderscores
deriving DecidableEq, Repr

def IdentifierFault.reason : IdentifierFault → String
  | .empty => "name cannot be empty"
  | .badStart => "name must start with a letter or underscore"
  | .badCharacter => "name must contain only letters, numbers, and underscores"
  | .onlyUnderscores => "name cannot consist only of underscores"

/-- The first fault of a name, if it has one. Letters outside ASCII count as faults, although the
language takes them. -/
def identifierFault? (name : String) : Option IdentifierFault :=
  match name.toList with
  | [] => some .empty
  | first :: rest =>
    if !(first.isAlpha || first == '_') then some .badStart
    else if !rest.all (fun c => c.isAlphanum || c == '_') then some .badCharacter
    else if (first :: rest).all (· == '_') then some .onlyUnderscores
    else none

/-- A name that can stand as an identifier in generated code: it has no fault and is no keyword. -/
def isUsable (name : String) : Bool :=
  !isKeyword name && (identifierFault? name).isNone

end TypedRoutes.Kotlin
