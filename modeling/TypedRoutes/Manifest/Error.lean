import TypedRoutes.Kotlin.Identifier
import TypedRoutes.Text.Find

/-!
Why a manifest cannot be used. Each cause has one wording, a stable code, sometimes a hint, and a
label on the text it is about when that text can be found in the source.
-/
namespace TypedRoutes.Manifest

/-- A stretch of source text, in bytes. -/
structure Span where
  offset : Nat
  length : Nat
deriving DecidableEq, Repr

namespace Span

/-- The forms that a name is looked for in, each with the bytes in front of the name: an assignment
with and without spaces, then any quoted occurrence. -/
def forms (name : String) : List (List Char × Nat) :=
  let quoted := '"' :: name.toList ++ ['"']
  [("name = ".toList ++ quoted, 8), ("name=".toList ++ quoted, 6), (quoted, 1)]

/-- The span of a name, by the first form that occurs at all. A later form is not looked for when an
earlier one has been found, wherever that is. -/
def locate? (search : List Char → List Char → Option Nat) (source name : String) : Option Span :=
  (forms name).findSome? fun (pattern, offset) =>
    (search pattern source.toList).map fun position => ⟨position + offset, name.utf8ByteSize⟩

/-- The first place where a source gives a name. -/
def first? (source name : String) : Option Span :=
  locate? Text.firstOccurrence? source name

/-- The last place where a source gives a name. -/
def last? (source name : String) : Option Span :=
  locate? Text.lastOccurrence? source name

end Span

/-- Why a manifest cannot be used. The file is the name that the manifest was read under. -/
inductive Error where
  /-- The text is not TOML of the right shape. -/
  | malformed (file : String)
  /-- A rule that concerns no single name is broken. -/
  | invalid (file message : String)
  | reservedKeyword (file name context : String) (span : Option Span)
  /-- A name is no identifier. -/
  | invalidIdentifier (file name context : String) (fault : Kotlin.IdentifierFault)
      (span : Option Span)
  | duplicate (file name context : String) (span : Option Span)
  /-- The file cannot be read as text. -/
  | unreadable (path : String)
deriving DecidableEq, Repr

namespace Error

def message : Error → String
  | malformed _ => "failed to parse wayfinder.toml"
  | invalid _ text => text
  | reservedKeyword _ name _ _ => "'" ++ name ++ "' is a Kotlin keyword"
  | invalidIdentifier _ name context _ _ => "invalid " ++ context ++ " name '" ++ name ++ "'"
  | duplicate _ name context _ => "duplicate " ++ context ++ " '" ++ name ++ "'"
  | unreadable path => "failed to read '" ++ path ++ "'"

/-- The code that documentation refers to an error by. -/
def code? : Error → Option String
  | malformed _ => some "wayfinder::parse_error"
  | invalid _ _ => some "wayfinder::validation_error"
  | reservedKeyword .. => some "wayfinder::reserved_keyword"
  | invalidIdentifier .. => some "wayfinder::invalid_identifier"
  | duplicate .. => some "wayfinder::duplicate"
  | unreadable _ => none

/-- What to do about an error. -/
def help? : Error → Option String
  | reservedKeyword _ name context _ =>
    some ("rename the " ++ context ++ " '" ++ name ++ "', generated code uses it as an identifier")
  | invalidIdentifier _ _ _ fault _ =>
    some (fault.reason ++
      "; Kotlin identifiers are letters, digits and underscores, not starting with a digit")
  | unreadable _ => some "pass the manifest path with '--config <path>'"
  | _ => none

/-- The file whose text an error points into. -/
def file? : Error → Option String
  | malformed file | invalid file _ | reservedKeyword file .. | invalidIdentifier file ..
  | duplicate file .. => some file
  | unreadable _ => none

/-- The span an error points at and what it says there, for errors about a name. A text that is not
TOML has a label too, but at a place that the TOML reader tells, and that is left out here. -/
def label? : Error → Option (String × Span)
  | reservedKeyword _ _ _ span => span.map ("keyword used here", ·)
  | invalidIdentifier _ _ _ _ span => span.map ("not a Kotlin identifier", ·)
  | duplicate _ _ _ span => span.map ("declared again here", ·)
  | _ => none

end Error

end TypedRoutes.Manifest
