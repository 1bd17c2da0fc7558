import TypedRoutes.Kotlin.Declaration

/-!
Kotlin source files: a package, imports and elements, separated by single blank lines. Imports form
a set that prints in code point order, so the order and number of requests for one does not matter.
-/
namespace TypedRoutes.Kotlin

open Layout

/-- Adds a name to a strictly increasing list of names, which it leaves alone if it is there. -/
def insertName (name : String) : List String → List String
  | [] => [name]
  | first :: rest =>
    if name < first then name :: first :: rest
    else if name = first then first :: rest
    else first :: insertName name rest

/-- A file that is being printed: the text so far, and how many sections are in it. -/
structure Printer where
  builder : Builder
  sections : Nat := 0

/-- Prints a section, below a blank line unless it is the first one. -/
def Printer.write (printer : Printer) (fragments : List Fragment) : Printer where
  builder :=
    (if printer.sections > 0 then printer.builder.pushBlank else printer.builder).pushAll fragments
  sections := printer.sections + 1

/-- A source file under construction. The empty package is the default one and has no line. What
else is in the file only counts as the fragments that it is lowered to: one for a property, a
function or an object, and any number, or none, for other code. -/
structure SourceFile where
  package : String
  imports : List String := []
  body : List (List Fragment) := []

namespace SourceFile

/-- Requests an import by its qualified name. -/
def addImport (file : SourceFile) (name : String) : SourceFile :=
  { file with imports := insertName name file.imports }

/-- Adds an element, given as its fragments, below what has been added before. -/
def add (file : SourceFile) (fragments : List Fragment) : SourceFile :=
  { file with body := file.body ++ [fragments] }

/-- The sections of a file in order: the package line, the imports, and each element. There is no
section for a package or imports that are not there, but there is one for every element, even for
one that has no fragments. -/
def sections (file : SourceFile) : List (List Fragment) :=
  (if file.package = "" then [] else [[.line ("package " ++ file.package)]]) ++
    (if file.imports.isEmpty then [] else [file.imports.map (.line <| "import " ++ ·)]) ++
    file.body

/-- The text of a file: its sections, printed one by one into an empty buffer. -/
def renderWith (indent : Indent) (file : SourceFile) : String :=
  (file.sections.foldl Printer.write { builder := { indent } }).builder.text

/-- The text of a file in the conventional indentation. -/
def render (file : SourceFile) : String :=
  file.renderWith indent

/-- The text of a file below a header and a blank line. -/
def renderBelow (header : String) (file : SourceFile) : String :=
  header ++ "\n\n" ++ file.render

end SourceFile

/-- Parts with something between them are the first part and then the others, each below it. -/
theorem intercalate_below {α : Type} (between first : List α) (rest : List (List α)) :
    between.intercalate (first :: rest) = first ++ rest.flatMap (between ++ ·) := by
  induction rest generalizing first with
  | nil => simp
  | cons next rest ih =>
    rw [List.intercalate_cons_cons, ih, List.flatMap_cons, List.append_assoc, List.append_assoc]

/-- Once there is a section, every other one is printed below a blank line. -/
theorem Printer.write_below (sections : List (List Fragment)) {printer : Printer}
    (below : printer.sections > 0) : (sections.foldl write printer).builder =
      printer.builder.pushAll (sections.flatMap ([.blank] ++ ·)) := by
  induction sections generalizing printer with
  | nil => rfl
  | cons fragments rest ih =>
    rw [List.foldl_cons, ih (Nat.succ_pos _), write, if_pos below, List.flatMap_cons,
      Builder.pushAll_append, Builder.pushAll_append]
    rfl

/-- The count of sections puts the blank lines between them and nowhere else. -/
theorem SourceFile.renderWith_sections (indent : Indent) (file : SourceFile) :
    file.renderWith indent = Builder.layOut indent ([.blank].intercalate file.sections) := by
  rw [renderWith, Builder.layOut]
  cases file.sections with
  | nil => rfl
  | cons first rest =>
    rw [List.foldl_cons, Printer.write_below rest (Nat.succ_pos _), intercalate_below,
      Builder.pushAll_append]
    rfl

end TypedRoutes.Kotlin
