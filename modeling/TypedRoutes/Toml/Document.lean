import TypedRoutes.Toml.Quoted
import TypedRoutes.Toml.Scalar
import TypedRoutes.Toml.Table

/-!
TOML documents, version 1.1. A text is read into statements, which are then carried out in order on
the root table. Reading and carrying out either succeed as a whole or not at all; where a document
is at fault is not recorded.
-/
namespace TypedRoutes.Toml

/-- What follows blank space and comments, over any number of lines. -/
def skipFill (inComment : Bool) : List Char → Option (List Char)
  | [] => some []
  | '\n' :: rest => skipFill false rest
  | '\r' :: '\n' :: rest => skipFill false rest
  | c :: rest =>
    if inComment then if isTextChar c then skipFill true rest else none
    else if c == '#' then skipFill true rest
    else if isInlineBlank c then skipFill false rest
    else some (c :: rest)

/-- What follows the end of a line that holds nothing more but blanks and a comment. -/
def endLine (inComment : Bool) : List Char → Option (List Char)
  | [] => some []
  | '\n' :: rest => some rest
  | '\r' :: '\n' :: rest => some rest
  | c :: rest =>
    if inComment then if isTextChar c then endLine true rest else none
    else if c == '#' then endLine true rest
    else if isInlineBlank c then endLine false rest
    else none

def isBareKeyChar (c : Char) : Bool :=
  c.isAlphanum || c == '_' || c == '-'

/-- One part of a key and what follows it. -/
def keyPart? (cs : List Char) : Option (String × List Char) :=
  match cs.takeWhile isBareKeyChar with
  | [] => quoted? cs
  | bare => some (String.ofList bare, cs.dropWhile isBareKeyChar)

/-- How many tables a dotted key or a value may be nested in. -/
def depthLimit : Nat := 80

/-- The parts of a dotted key and what follows them. Blanks may surround the dots. -/
def keyParts? : Nat → List Char → Option (List String × List Char)
  | 0, _ => none
  | fuel + 1, cs => do
    let (part, rest) ← keyPart? (cs.dropWhile isInlineBlank)
    match rest.dropWhile isInlineBlank with
    | '.' :: rest =>
      let (parts, rest) ← keyParts? fuel rest
      some (part :: parts, rest)
    | rest => some ([part], rest)

/-- A dotted key as its parents and its last part, and what follows it. -/
def key? (cs : List Char) : Option (List String × String × List Char) := do
  let (parts, rest) ← keyParts? (cs.length + 1) cs
  if parts.length > depthLimit then none
  some (parts.dropLast, ← parts.getLast?, rest)

/-- Characters that end a scalar, unless they are blanks and more of it follows. -/
def endsScalar (c : Char) : Bool :=
  "=,[]\x7b\x7d \t#\r\n".toList.contains c

/-- Whether more of a scalar follows behind blanks. A quote in that place opens a string. -/
def resumesScalar (cs : List Char) : Bool :=
  (cs.dropWhile isInlineBlank).head?.any fun c => !endsScalar c && c != '"' && c != '\''

/-- The characters of a scalar and what follows them. Blanks belong to a scalar when more of it
follows, as the time of day does behind a date. -/
def splitScalar : List Char → List Char × List Char
  | [] => ([], [])
  | c :: rest =>
    if endsScalar c && !(isInlineBlank c && resumesScalar rest) then ([], c :: rest)
    else
      let (more, rest) := splitScalar rest
      (c :: more, rest)

mutual

/-- A value and what follows it. The depth is that of the arrays and inline tables around it. -/
def value? : Nat → Nat → List Char → Option (Value × List Char)
  | 0, _, _ => none
  | fuel + 1, depth, '[' :: rest => do
    if depth ≥ depthLimit then none
    let (elements, rest) ← elements? fuel (depth + 1) rest
    some (.array elements, rest)
  | fuel + 1, depth, '\x7b' :: rest => do
    if depth ≥ depthLimit then none
    let (entries, rest) ← entries? fuel (depth + 1) [] rest
    some (.table (finishEntries entries), rest)
  | _ + 1, _, cs =>
    match cs with
    | '"' :: _ | '\'' :: _ => (string? cs).map fun (text, rest) => (.string text, rest)
    | _ =>
      let (first, rest) := splitScalar cs
      (scalar? first).map (·, rest)

/-- The elements of an array up to its closing bracket, and what follows it. -/
def elements? : Nat → Nat → List Char → Option (List Value × List Char)
  | 0, _, _ => none
  | fuel + 1, depth, cs => do
    match (← skipFill false cs) with
    | ']' :: rest => some ([], rest)
    | cs =>
      let (value, rest) ← value? fuel depth cs
      match (← skipFill false rest) with
      | ',' :: rest =>
        let (values, rest) ← elements? fuel depth rest
        some (value :: values, rest)
      | ']' :: rest => some ([value], rest)
      | _ => none

/-- The entries of an inline table up to its closing brace, added to those before, and what follows
it. Lines may end and comments may stand between any two parts of an entry, though not inside a
dotted key. -/
def entries? : Nat → Nat → Entries → List Char → Option (Entries × List Char)
  | 0, _, _, _ => none
  | fuel + 1, depth, entries, cs => do
    match (← skipFill false cs) with
    | '\x7d' :: rest => some (entries, rest)
    | cs =>
      let (parents, key, rest) ← key? cs
      match (← skipFill false rest) with
      | '=' :: rest =>
        let (value, rest) ← value? fuel depth (← skipFill false rest)
        let entries ← entries.insert parents key value
        match (← skipFill false rest) with
        | ',' :: rest => entries? fuel depth entries rest
        | '\x7d' :: rest => some (entries, rest)
        | _ => none
      | _ => none

end

inductive Statement where
  /-- Opens a table. -/
  | table (parents : List String) (key : String)
  /-- Opens an element of an array of tables. -/
  | element (parents : List String) (key : String)
  /-- Gives a value to a key of the open table. -/
  | assign (parents : List String) (key : String) (value : Value)

/-- A statement and what follows it on its line. -/
def statement? (cs : List Char) : Option (Statement × List Char) := do
  match cs with
  | '[' :: '[' :: rest =>
    match (← key? rest) with
    | (parents, key, ']' :: ']' :: rest) => some (.element parents key, rest)
    | _ => none
  | '[' :: rest =>
    match (← key? rest) with
    | (parents, key, ']' :: rest) => some (.table parents key, rest)
    | _ => none
  | cs =>
    match (← key? cs) with
    | (parents, key, '=' :: rest) =>
      let (value, rest) ← value? (cs.length + 1) 0 (rest.dropWhile isInlineBlank)
      some (.assign parents key value, rest)
    | _ => none

/-- The statements of a text, one on a line. -/
def statements? : Nat → List Char → Option (List Statement)
  | 0, _ => none
  | fuel + 1, cs => do
    match (← skipFill false cs) with
    | [] => some []
    | cs =>
      let (statement, rest) ← statement? cs
      let rest ← endLine false rest
      let more ← statements? fuel rest
      some (statement :: more)

/-- Carries out statements on a root table. The open table is the one the last header led to. -/
def carryOut (root : Entries) (opened : List String) : List Statement → Option Entries
  | [] => some root
  | .table parents key :: rest => do
    carryOut (← root.changeAt (Entries.openTable key) parents) (parents ++ [key]) rest
  | .element parents key :: rest => do
    carryOut (← root.changeAt (Entries.openElement key) parents) (parents ++ [key]) rest
  | .assign parents key value :: rest => do
    carryOut (← root.changeAt (·.insert parents key value) opened) opened rest

/-- The root table of a document. A byte order mark in front is not part of it. -/
def parse? (text : String) : Option (List (String × Value)) := do
  let cs := match text.toList with
    | '\ufeff' :: rest => rest
    | cs => cs
  let statements ← statements? (cs.length + 1) cs
  let root ← carryOut [] [] statements
  some (finishEntries root)

end TypedRoutes.Toml
