/-!
Kotlin string literals. Escaping covers the dollar sign besides quotes, backslashes and line
breaks, so literal text is never read as a string template.
-/
namespace TypedRoutes.Kotlin

/-- The written form of one character inside a literal. All other characters stand for
themselves. -/
def escapeChar : Char → List Char
  | '\\' => ['\\', '\\']
  | '"' => ['\\', '"']
  | '$' => ['\\', '$']
  | '\n' => ['\\', 'n']
  | '\r' => ['\\', 'r']
  | '\t' => ['\\', 't']
  | c => [c]

/-- Text as it stands between the quotes of a literal, character by character. -/
def escape (text : String) : String :=
  String.ofList (text.toList.flatMap escapeChar)

/-- The literal whose value is the given text. -/
def literal (text : String) : String :=
  "\"" ++ escape text ++ "\""

end TypedRoutes.Kotlin
