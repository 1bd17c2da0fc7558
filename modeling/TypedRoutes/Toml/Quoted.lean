/-!
TOML strings. Basic strings have escapes and literal strings have none; tripled quotes let a string
run over several lines. Line breaks inside are kept as they were written.
-/
namespace TypedRoutes.Toml

/-- Characters that may stand for themselves in strings and comments. -/
def isTextChar (c : Char) : Bool :=
  c == '\t' || (0x20 ≤ c.toNat && c != '\x7f')

/-- The character that a fixed number of hexadecimal digits names, and what follows them. -/
def hexChar? (count : Nat) (cs : List Char) : Option (Char × List Char) :=
  let digits := cs.take count
  let value? := digits.foldlM (fun (value : Nat) c =>
    if c.isDigit then some (value * 16 + (c.toNat - 0x30))
    else if 'a' ≤ c ∧ c ≤ 'f' then some (value * 16 + (c.toNat - 0x57))
    else if 'A' ≤ c ∧ c ≤ 'F' then some (value * 16 + (c.toNat - 0x37))
    else none) 0
  match value? with
  | some value =>
    if h : value.isValidChar then
      if digits.length = count then some (Char.ofNatAux value h, cs.drop count) else none
    else none
  | none => none

/-- The character that an escape names, and what follows it. The backslash is already read. -/
def escaped? : List Char → Option (Char × List Char)
  | 'b' :: rest => some ('\x08', rest)
  | 't' :: rest => some ('\t', rest)
  | 'n' :: rest => some ('\n', rest)
  | 'f' :: rest => some ('\x0c', rest)
  | 'r' :: rest => some ('\r', rest)
  | 'e' :: rest => some ('\x1b', rest)
  | '"' :: rest => some ('"', rest)
  | '\\' :: rest => some ('\\', rest)
  | 'x' :: rest => hexChar? 2 rest
  | 'u' :: rest => hexChar? 4 rest
  | 'U' :: rest => hexChar? 8 rest
  | _ => none

/-- The value of a basic string and what follows it. The opening quote is already read, and the
fuel is the number of characters left. -/
def basic? : Nat → List Char → Option (List Char × List Char)
  | 0, _ => none
  | _ + 1, '"' :: rest => some ([], rest)
  | fuel + 1, '\\' :: rest => do
    let (c, rest) ← escaped? rest
    let (text, rest) ← basic? fuel rest
    some (c :: text, rest)
  | fuel + 1, c :: rest =>
    if isTextChar c then (basic? fuel rest).map fun (text, rest) => (c :: text, rest) else none
  | _ + 1, [] => none

/-- The value of a literal string and what follows it. The opening quote is already read. -/
def literal? : List Char → Option (List Char × List Char)
  | [] => none
  | '\'' :: rest => some ([], rest)
  | c :: rest =>
    if isTextChar c then (literal? rest).map fun (text, rest) => (c :: text, rest) else none

/-- What follows a line break, when one stands in front. -/
def afterBreak? : List Char → Option (List Char)
  | '\n' :: rest => some rest
  | '\r' :: '\n' :: rest => some rest
  | _ => none

/-- What follows blanks and line breaks. -/
def skipBlankLines : List Char → List Char
  | ' ' :: rest | '\t' :: rest | '\n' :: rest | '\r' :: '\n' :: rest => skipBlankLines rest
  | cs => cs

def isInlineBlank (c : Char) : Bool :=
  c == ' ' || c == '\t'

/-- Up to two quotes that belong to the value in front of the closing ones, and what follows. -/
def trailingQuotes (quote : Char) (cs : List Char) : List Char × List Char :=
  let own := (cs.take 2).takeWhile (· == quote)
  (own, cs.drop own.length)

/-- The value of a basic string over several lines and what follows it. A backslash before a line
break takes the break and all blank space after it out of the value. -/
def multilineBasic? : Nat → List Char → Option (List Char × List Char)
  | 0, _ => none
  | _ + 1, '"' :: '"' :: '"' :: rest => some (trailingQuotes '"' rest)
  | fuel + 1, '\\' :: rest =>
    if (afterBreak? (rest.dropWhile isInlineBlank)).isSome then
      multilineBasic? fuel (skipBlankLines rest)
    else do
      let (c, rest) ← escaped? rest
      let (text, rest) ← multilineBasic? fuel rest
      some (c :: text, rest)
  | fuel + 1, '\r' :: '\n' :: rest =>
    (multilineBasic? fuel rest).map fun (text, rest) => ('\r' :: '\n' :: text, rest)
  | fuel + 1, c :: rest =>
    if isTextChar c || c == '\n' then
      (multilineBasic? fuel rest).map fun (text, rest) => (c :: text, rest)
    else none
  | _ + 1, [] => none

/-- The value of a literal string over several lines and what follows it. -/
def multilineLiteral? : List Char → Option (List Char × List Char)
  | [] => none
  | '\'' :: '\'' :: '\'' :: rest => some (trailingQuotes '\'' rest)
  | '\r' :: '\n' :: rest =>
    (multilineLiteral? rest).map fun (text, rest) => ('\r' :: '\n' :: text, rest)
  | c :: rest =>
    if isTextChar c || c == '\n' then
      (multilineLiteral? rest).map fun (text, rest) => (c :: text, rest)
    else none

/-- The text behind opening quotes, without the line break that may follow them. -/
def afterOpening (cs : List Char) : List Char :=
  (afterBreak? cs).getD cs

/-- A quoted string on one line and what follows it. -/
def quoted? : List Char → Option (String × List Char)
  | '"' :: rest =>
    (basic? (rest.length + 1) rest).map fun (text, rest) => (String.ofList text, rest)
  | '\'' :: rest => (literal? rest).map fun (text, rest) => (String.ofList text, rest)
  | _ => none

/-- A quoted string of any kind and what follows it. -/
def string? : List Char → Option (String × List Char)
  | '"' :: '"' :: '"' :: rest =>
    (multilineBasic? (rest.length + 1) (afterOpening rest)).map fun (text, rest) =>
      (String.ofList text, rest)
  | '\'' :: '\'' :: '\'' :: rest =>
    (multilineLiteral? (afterOpening rest)).map fun (text, rest) => (String.ofList text, rest)
  | cs => quoted? cs

end TypedRoutes.Toml
