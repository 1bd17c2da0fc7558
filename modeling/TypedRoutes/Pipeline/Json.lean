/-!
JSON texts of snapshots: members in the order given, two spaces per level, and nothing escaped that
need not be.
-/
namespace TypedRoutes.Pipeline

/-- The JSON values that snapshots are made of. -/
inductive Json where
  | null
  | boolean (value : Bool)
  | string (text : String)
  | array (elements : List Json)
  | object (members : List (String × Json))

namespace Json

/-- The lowercase hexadecimal digit of a number below sixteen. -/
def hexDigit (n : Nat) : Char :=
  Char.ofNat (if n < 10 then 0x30 + n else 0x57 + n)

/-- A character inside a quoted text. Control characters without a short escape take the long
one. -/
def escapeChar (c : Char) : List Char :=
  match c with
  | '"' => ['\\', '"']
  | '\\' => ['\\', '\\']
  | '\n' => ['\\', 'n']
  | '\r' => ['\\', 'r']
  | '\t' => ['\\', 't']
  | '\x08' => ['\\', 'b']
  | '\x0c' => ['\\', 'f']
  | c =>
    if c.toNat < 0x20 then ['\\', 'u', '0', '0', hexDigit (c.toNat / 16), hexDigit (c.toNat % 16)]
    else [c]

def quote (text : String) : String :=
  "\"" ++ String.ofList (text.toList.flatMap escapeChar) ++ "\""

/-- The start of a line at a nesting depth. -/
def lineStart (depth : Nat) : String :=
  "\n" ++ String.ofList (List.replicate (2 * depth) ' ')

/-- Items between brackets, one on a line, or the bare brackets when there are none. -/
def bracketed (left right : String) (depth : Nat) (items : List String) : String :=
  if items.isEmpty then left ++ right
  else
    left ++ lineStart (depth + 1) ++ (("," ++ lineStart (depth + 1)).intercalate items) ++
      lineStart depth ++ right

mutual

/-- The text of a value whose first line is already indented to the given depth. -/
def render (depth : Nat) : Json → String
  | null => "null"
  | boolean true => "true"
  | boolean false => "false"
  | string text => quote text
  | array elements => bracketed "[" "]" depth (renderElements (depth + 1) elements)
  | object members => bracketed "\x7b" "\x7d" depth (renderMembers (depth + 1) members)

def renderElements (depth : Nat) : List Json → List String
  | [] => []
  | element :: rest => render depth element :: renderElements depth rest

def renderMembers (depth : Nat) : List (String × Json) → List String
  | [] => []
  | (key, value) :: rest =>
    (quote key ++ ": " ++ render depth value) :: renderMembers depth rest

end

end Json

end TypedRoutes.Pipeline
