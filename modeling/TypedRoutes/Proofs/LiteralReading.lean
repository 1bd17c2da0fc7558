import TypedRoutes.Kotlin.Literal

/-! Reading string literals by the language's own rules, apart from how they
are written. Escapes denote their characters, `${` opens an interpolation up to
the next closing brace, a dollar sign in front of a name is a template of that
name, and a bare quote ends the literal. Text that was escaped reads back as
itself whatever surrounds it, so it never becomes a template. -/
namespace TypedRoutes.LiteralReading
open Kotlin

/-- The characters that start and continue a name in a template. Which letters
do is a matter of Unicode tables that nothing here depends on. -/
structure NameClass where
  starts : Char → Bool
  continues : Char → Bool

/-- One part of what stands between the quotes of a literal: a character that it
denotes, or code. -/
inductive Part where
  | text (c : Char)
  /-- An interpolated expression. -/
  | code (expression : String)
  /-- The template of a single name. -/
  | name (identifier : String)
deriving DecidableEq, Repr

/-- The character that an escape denotes. All other characters behind a
backslash make no escape. -/
def escaped? : Char → Option Char
  | '\\' => some '\\'
  | '"' => some '"'
  | '$' => some '$'
  | 'n' => some '\n'
  | 'r' => some '\r'
  | 't' => some '\t'
  | _ => none

/-- A part in front of what was read after it, if that could be read. -/
def prepend (part : Part) (read : Option (List Part × List Char)) :
    Option (List Part × List Char) :=
  read.map fun (parts, tail) => (part :: parts, tail)

/-- The parts up to the closing quote and the characters behind it. A raw line
break, an unknown escape or a missing end make the text no literal. -/
def readParts (names : NameClass) : List Char → Option (List Part × List Char)
  | [] => none
  | c :: rest =>
    if c = '"' then some ([], rest)
    else if c = '\\' then
      match rest with
      | [] => none
      | mark :: rest => (escaped? mark).bind fun value => prepend (.text value) (readParts names rest)
    else if c = '$' then
      match rest with
      | [] => none
      | next :: rest =>
        if next = '{' then
          if '}' ∈ rest then
            prepend (.code (String.ofList (rest.takeWhile (· != '}'))))
              (readParts names (rest.dropWhile (· != '}')).tail)
          else none
        else if names.starts next then
          prepend (.name (String.ofList (next :: rest.takeWhile names.continues)))
            (readParts names (rest.dropWhile names.continues))
        else prepend (.text '$') (readParts names (next :: rest))
    else if c = '\n' ∨ c = '\r' then none
    else prepend (.text c) (readParts names rest)
termination_by cs => cs.length
decreasing_by
  all_goals simp only [List.length_cons]
  · omega
  · have shorter := (List.dropWhile_sublist (· != '}') (l := rest)).length_le
    rw [List.length_tail]
    omega
  · have shorter := (List.dropWhile_sublist names.continues (l := rest)).length_le
    omega
  · omega
  · omega

/-- The parts of a text that is one complete literal, with nothing behind its
end. -/
def readLiteral (names : NameClass) (written : String) : Option (List Part) :=
  match written.toList with
  | '"' :: rest =>
    match readParts names rest with
    | some (parts, []) => some parts
    | _ => none
  | _ => none

/-- A text is one complete literal without templates that spells a value,
whatever characters may make up a name. -/
def Denotes (names : NameClass) (written value : String) : Prop :=
  readLiteral names written = some (value.toList.map .text)

/-- The value of a part, given what expressions and names stand for. -/
def Part.value? (evaluate : String → Option String) : Part → Option String
  | .text c => some (String.singleton c)
  | .code expression => evaluate expression
  | .name identifier => evaluate identifier

/-- The value of a literal: the values of its parts one after the other. It has
none when an expression has none. -/
def value? (evaluate : String → Option String) (parts : List Part) : Option String :=
  (parts.mapM (Part.value? evaluate)).map String.join

variable {names : NameClass} {evaluate : String → Option String}

/-- A character that is no mark of its own stands for itself. -/
theorem read_plain {c : Char} {rest : List Char}
    (quote : c ≠ '"') (backslash : c ≠ '\\') (dollar : c ≠ '$') (feed : c ≠ '\n')
    (carriage : c ≠ '\r') :
    readParts names (c :: rest) = prepend (.text c) (readParts names rest) := by
  rw [readParts.eq_def]
  simp [quote, backslash, dollar, feed, carriage]

private theorem read_escape {mark value : Char} {rest : List Char}
    (known : escaped? mark = some value) :
    readParts names ('\\' :: mark :: rest) = prepend (.text value) (readParts names rest) := by
  rw [readParts]
  simp [known]

/-- An escaped character reads back as itself, whatever follows it. In
particular an escaped dollar sign begins no template. -/
theorem read_escapeChar (c : Char) (rest : List Char) :
    readParts names (escapeChar c ++ rest) = prepend (.text c) (readParts names rest) := by
  unfold escapeChar
  split
  · exact read_escape rfl
  · exact read_escape rfl
  · exact read_escape rfl
  · exact read_escape rfl
  · exact read_escape rfl
  · exact read_escape rfl
  · rename_i backslash quote dollar feed carriage tab
    exact read_plain quote backslash dollar feed carriage

/-- Escaped text reads back as its characters, whatever follows it, so texts can
stand next to each other. -/
theorem read_escaped (text : List Char) {rest tail : List Char} {parts : List Part}
    (after : readParts names rest = some (parts, tail)) :
    readParts names (text.flatMap escapeChar ++ rest) =
      some (text.map .text ++ parts, tail) := by
  induction text with
  | nil => exact after
  | cons c text ih =>
    rw [List.flatMap_cons, List.append_assoc, read_escapeChar, ih]
    rfl

/-- An interpolation reads as the expression between its braces, as long as
there is no brace in it. -/
theorem read_interpolation {expression rest tail : List Char} {parts : List Part}
    (braceless : '}' ∉ expression) (after : readParts names rest = some (parts, tail)) :
    readParts names ('$' :: '{' :: expression ++ '}' :: rest) =
      some (.code (String.ofList expression) :: parts, tail) := by
  have inside : ∀ c ∈ expression, (c != '}') = true := by
    intro c member
    simp only [bne_iff_ne, ne_eq]
    rintro rfl
    exact braceless member
  have taken : (expression ++ '}' :: rest).takeWhile (· != '}') = expression := by
    rw [List.takeWhile_append_of_pos inside]
    simp
  have dropped : (expression ++ '}' :: rest).dropWhile (· != '}') = '}' :: rest := by
    rw [List.dropWhile_append_of_pos inside]
    simp
  have closed : '}' ∈ expression ++ '}' :: rest := by simp
  rw [List.cons_append, List.cons_append, readParts]
  simp only [Char.reduceEq, ↓reduceIte, closed, taken, dropped, List.tail_cons, after]
  rfl

/-- A literal made of text denotes the text. This holds of all texts, so nothing
in a manifest can end a literal early. -/
theorem literal_denotes (text : String) : Denotes names (literal text) text := by
  have closing : readParts names ['"'] = some ([], []) := by
    rw [readParts]
    rfl
  have read := read_escaped text.toList closing
  simp only [Denotes, readLiteral, literal, escape, String.toList_append, String.toList_ofList]
  simp [read]

theorem value_cons {part : Part} {parts : List Part} {first rest : String}
    (here : part.value? evaluate = some first) (after : value? evaluate parts = some rest) :
    value? evaluate (part :: parts) = some (first ++ rest) := by
  obtain ⟨values, each, rfl⟩ := Option.map_eq_some_iff.mp after
  simp [value?, here, each, String.join_cons]

/-- Text in front of other parts is part of the value as it stands. -/
theorem value_text {text : List Char} {parts : List Part} {rest : String}
    (after : value? evaluate parts = some rest) :
    value? evaluate (text.map .text ++ parts) = some (String.ofList text ++ rest) := by
  induction text with
  | nil => simpa using after
  | cons c text ih =>
    have spelled : String.ofList (c :: text) ++ rest =
        String.singleton c ++ (String.ofList text ++ rest) := by
      rw [← String.toList_inj]
      simp
    rw [List.map_cons, List.cons_append, spelled]
    exact value_cons rfl ih

end TypedRoutes.LiteralReading
