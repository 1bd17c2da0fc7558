import Mathlib.Data.List.Sort
import Mathlib.Data.String.Basic
import TypedRoutes.Kotlin.Unit

/-! Source files as texts. A file is made by requests for imports and by adding
elements, in any order, and it prints as blocks with one empty line between
them. Which names are requested shows in it, and what is added in which order,
but not how often or where among the other calls a name is requested. An
element without fragments is a block as well, with no text of its own, so the
empty line below it can be the first line of a file. -/
namespace TypedRoutes.FileSections
open Layout Kotlin Route Pipeline

/-- A step in the making of a file. An element is added as the fragments that it
is lowered to, of which there may be any number. -/
inductive Call where
  | request (name : String)
  | add (fragments : List Fragment)

/-- What a call makes of a file. Neither kind of call looks at what the other
has done. -/
def Call.perform (file : SourceFile) : Call → SourceFile
  | .request name => file.addImport name
  | .add fragments => file.add fragments

/-- The file of a package that calls lead to, from the empty one on. -/
def build (package : String) (calls : List Call) : SourceFile :=
  calls.foldl Call.perform { package }

def Call.element? : Call → Option (List Fragment)
  | .request _ => none
  | .add fragments => some fragments

/-- The elements that calls add, in order. Requests between them leave no trace
here. -/
def added (calls : List Call) : List (List Fragment) :=
  calls.filterMap Call.element?

/-- All names that are wanted and no others, in strictly increasing order. Being
strict, the order leaves no room for a name twice. -/
structure Sorts (wanted : String → Prop) (names : List String) : Prop where
  increasing : names.Pairwise (· < ·)
  mem_iff : ∀ name, name ∈ names ↔ wanted name

/-- The texts that a file consists of: the line of its package unless it is the
default one, the lines of its imports if there are any, and each element the way
it is laid out on its own. Nothing is left out for being empty once it is added. -/
def blocks (indent : Indent) (package : String) (imports : List String)
    (elements : List (List Fragment)) : List String :=
  (if package = "" then [] else ["package " ++ package ++ "\n"]) ++
    (if imports = [] then [] else [String.join (imports.map ("import " ++ · ++ "\n"))]) ++
    elements.map (Builder.layOut indent)

/-- Texts of whole lines with one empty line between them. There is none in
front of the first or behind the last. -/
def parted (blocks : List String) : String :=
  "\n".intercalate blocks

/-- A text that begins with an empty line: its first character is a line break.
-/
def OpensEmpty (text : String) : Prop :=
  text.toList.head? = some '\n'

instance (text : String) : Decidable (OpensEmpty text) :=
  inferInstanceAs (Decidable (text.toList.head? = some '\n'))

/-- What the text of a file shows of the calls that have led to it. The blocks
are joined, so an empty line that parts them has a block on either side; it is
the first line only where the block above it has no text. -/
structure Printed (package : String) (calls : List Call) : Prop where
  joined : ∃ imports, Sorts (.request · ∈ calls) imports ∧
    (∀ other, Sorts (.request · ∈ calls) other → other = imports) ∧
    ∀ indent, (build package calls).renderWith indent =
      parted (blocks indent package imports (added calls))
  below : ∀ header, (build package calls).renderBelow header =
    header ++ "\n\n" ++ (build package calls).renderWith Kotlin.indent
  /-- Requests can be repeated and take any place. -/
  settled : ∀ other, (∀ name, .request name ∈ other ↔ .request name ∈ calls) →
    added other = added calls →
      ∀ indent, (build package other).renderWith indent = (build package calls).renderWith indent
  /-- An empty line that comes first is the first element's own, or the one below
  a first element without fragments. -/
  opening : ∀ indent, OpensEmpty ((build package calls).renderWith indent) ↔
    package = "" ∧ (∀ name, .request name ∉ calls) ∧
      ∃ element rest, added calls = element :: rest ∧
        (OpensEmpty (Builder.layOut indent element) ∨ element = [] ∧ rest ≠ [])

/-- What a unit imports: two names that its encoding function needs, and the
container if extractors read from it and its name has a package to import it
from. -/
def Imported (container : Container) (descriptor : Descriptor) (name : String) : Prop :=
  name = urlEncoder ∨ name = standardCharsets ∨
    name = container.type ∧ '.' ∈ container.type.toList ∧
      ∃ field ∈ descriptor.fields, field.kind ≠ none

/-! ## Requested names -/

section Names
variable {name other : String} {names : List String}

/-- Inserting a name adds it, and loses none that was there. -/
theorem mem_insertName : other ∈ insertName name names ↔ other = name ∨ other ∈ names := by
  induction names with
  | nil => simp [insertName]
  | cons first rest ih =>
    unfold insertName
    split
    · exact List.mem_cons
    · split
      · rename_i same
        simp [same]
      · simp only [List.mem_cons, ih]
        exact or_left_comm

theorem insertName_increasing (name : String) (increasing : names.Pairwise (· < ·)) :
    (insertName name names).Pairwise (· < ·) := by
  induction names with
  | nil => exact List.pairwise_singleton _ _
  | cons first rest ih =>
    obtain ⟨least, others⟩ := List.pairwise_cons.mp increasing
    unfold insertName
    split
    · rename_i before
      refine List.pairwise_cons.mpr ⟨fun later member => ?_, increasing⟩
      rcases List.mem_cons.mp member with rfl | member
      · exact before
      · exact before.trans (least later member)
    · rename_i behind
      split
      · exact increasing
      · rename_i different
        refine List.pairwise_cons.mpr ⟨fun later member => ?_, ih others⟩
        rcases mem_insertName.mp member with rfl | member
        · exact lt_of_le_of_ne (not_lt.mp behind) (Ne.symm different)
        · exact least later member

private theorem Sorts.insert {wanted : String → Prop} (sorts : Sorts wanted names) (name : String) :
    Sorts (fun other => other = name ∨ wanted other) (insertName name names) where
  increasing := insertName_increasing name sorts.increasing
  mem_iff other := by rw [mem_insertName, sorts.mem_iff]

/-- There is one increasing order, so a list that sorts the wanted names is the
list of imports. -/
theorem Sorts.unique {wanted : String → Prop} {others : List String}
    (sorts : Sorts wanted names) (again : Sorts wanted others) : names = others :=
  sorts.increasing.eq_of_mem_iff again.increasing fun name =>
    (sorts.mem_iff name).trans (again.mem_iff name).symm

private theorem Sorts.congr {wanted needed : String → Prop} (sorts : Sorts wanted names)
    (same : ∀ name, wanted name ↔ needed name) : Sorts needed names where
  increasing := sorts.increasing
  mem_iff name := (sorts.mem_iff name).trans (same name)

end Names

/-! ## Calls -/

/-- A file that calls have led to. Each call keeps this for the calls so far, so
it holds for all of them at the end. -/
structure Reached (package : String) (calls : List Call) (file : SourceFile) : Prop where
  package : file.package = package
  imports : Sorts (.request · ∈ calls) file.imports
  body : file.body = added calls

section Calls
variable {package : String} {calls : List Call} {file : SourceFile}

private theorem reached_empty (package : String) : Reached package [] { package } where
  package := rfl
  imports := ⟨.nil, by simp⟩
  body := rfl

private theorem Reached.perform (reached : Reached package calls file) (call : Call) :
    Reached package (calls ++ [call]) (call.perform file) := by
  cases call with
  | request name =>
    refine ⟨reached.package, (reached.imports.insert name).congr fun other => ?_, ?_⟩
    · simp [or_comm]
    · simp [Call.perform, SourceFile.addImport, reached.body, added, Call.element?]
  | add fragments =>
    refine ⟨reached.package, reached.imports.congr fun other => ?_, ?_⟩
    · simp
    · simp [Call.perform, SourceFile.add, reached.body, added, Call.element?]

private theorem Reached.run (reached : Reached package calls file) (later : List Call) :
    Reached package (calls ++ later) (later.foldl Call.perform file) := by
  induction later generalizing calls file with
  | nil => simpa using reached
  | cons call rest ih => simpa using ih (reached.perform call)

private theorem build_reached (package : String) (calls : List Call) :
    Reached package calls (build package calls) :=
  (reached_empty package).run calls

end Calls

/-! ## Blocks -/

section Blocks
variable {indent : Indent}

private theorem layOut_append (indent : Indent) (first second : List Fragment) :
    Builder.layOut indent (first ++ second) =
      Builder.layOut indent first ++ Builder.layOut indent second := by
  simp only [Builder.layOut_rows, rowsOf_append, renderRows_append]

private theorem layOut_blank (indent : Indent) : Builder.layOut indent [.blank] = "\n" := rfl

private theorem indent_top (indent : Indent) : indent.text 0 = "" := by
  cases indent <;> simp [Indent.text]

private theorem layOut_line (indent : Indent) (text : String) :
    Builder.layOut indent [.line text] = text ++ "\n" := by
  simp [Builder.layOut_rows, rowsOf, Fragment.rows, renderRows, Row.render, indent_top]

private theorem layOut_lines (indent : Indent) (lines : List String) :
    Builder.layOut indent (lines.map .line) = String.join (lines.map (· ++ "\n")) := by
  induction lines with
  | nil => rfl
  | cons line rest ih =>
    rw [List.map_cons, ← List.singleton_append, layOut_append, layOut_line, ih, List.map_cons,
      String.join_cons]

/-- Groups of fragments with a blank line between them print as their texts with
an empty line between them, whatever each group holds. -/
theorem layOut_parted (indent : Indent) (groups : List (List Fragment)) :
    Builder.layOut indent ([.blank].intercalate groups) =
      parted (groups.map (Builder.layOut indent)) := by
  induction groups with
  | nil => rfl
  | cons group rest ih =>
    cases rest with
    | nil => simp [parted]
    | cons next rest =>
      rw [List.intercalate_cons_cons, layOut_append, layOut_append, layOut_blank, ih]
      simp [parted, String.intercalate_cons_cons]

private theorem sections_blocks (indent : Indent) (file : SourceFile) :
    file.sections.map (Builder.layOut indent) =
      blocks indent file.package file.imports file.body := by
  have lines : Builder.layOut indent (file.imports.map (.line <| "import " ++ ·)) =
      String.join (file.imports.map ("import " ++ · ++ "\n")) := by
    simpa only [List.map_map, Function.comp_def] using
      layOut_lines indent (file.imports.map ("import " ++ ·))
  have package : (if file.package = "" then [] else [[.line ("package " ++ file.package)]]).map
      (Builder.layOut indent) =
        if file.package = "" then [] else ["package " ++ file.package ++ "\n"] := by
    split <;> simp [layOut_line]
  have imports : (if file.imports.isEmpty then []
      else [file.imports.map (.line <| "import " ++ ·)]).map (Builder.layOut indent) =
        if file.imports = [] then []
        else [String.join (file.imports.map ("import " ++ · ++ "\n"))] := by
    by_cases none : file.imports = []
    · simp [none]
    · simp [none, lines]
  rw [SourceFile.sections, List.map_append, List.map_append, package, imports, blocks]

/-- A file prints as its blocks, parted by empty lines. The counter that puts
these lines there does not show any more. -/
theorem renderWith_blocks (indent : Indent) (file : SourceFile) :
    file.renderWith indent = parted (blocks indent file.package file.imports file.body) := by
  rw [SourceFile.renderWith_sections, layOut_parted, sections_blocks]

private theorem not_opensEmpty_empty : ¬ OpensEmpty "" := by simp [OpensEmpty]

/-- The first block begins the text unless it is empty, and then the line that
parts it from the next one does. -/
theorem parted_opens (first : String) (rest : List String) :
    OpensEmpty (parted (first :: rest)) ↔ OpensEmpty first ∨ first = "" ∧ rest ≠ [] := by
  cases rest with
  | nil => simp [parted]
  | cons next rest =>
    by_cases empty : first = ""
    · subst empty
      simp [parted, OpensEmpty, String.intercalate_cons_cons]
    · have letters : first.toList ≠ [] := by simpa using empty
      have opened : (parted (first :: next :: rest)).toList.head? = first.toList.head? := by
        rw [parted, String.intercalate_cons_cons, String.toList_append, String.toList_append,
          List.append_assoc, List.head?_append_of_ne_nil _ letters]
      rw [OpensEmpty, opened, OpensEmpty]
      simp [empty]

/-- Every fragment prints at least a line break, so only an element without
fragments has no text. -/
theorem layOut_empty_iff {element : List Fragment} :
    Builder.layOut indent element = "" ↔ element = [] := by
  constructor
  · intro empty
    cases element with
    | nil => rfl
    | cons fragment rest =>
      rw [Builder.layOut_rows] at empty
      cases fragment <;>
        simp [rowsOf, Fragment.rows, renderRows, Row.render, String.join_cons] at empty
  · rintro rfl
    rfl

/-- A file begins with an empty line only when neither a package nor an import
comes first and the first element lets one through. -/
theorem blocks_open (indent : Indent) (package : String) (imports : List String)
    (elements : List (List Fragment)) :
    OpensEmpty (parted (blocks indent package imports elements)) ↔
      package = "" ∧ imports = [] ∧ ∃ element rest, elements = element :: rest ∧
        (OpensEmpty (Builder.layOut indent element) ∨ element = [] ∧ rest ≠ []) := by
  unfold blocks
  by_cases default : package = ""
  · rw [if_pos default, List.nil_append]
    cases imports with
    | nil =>
      cases elements with
      | nil => simp [parted, not_opensEmpty_empty]
      | cons element rest => simp [parted_opens, layOut_empty_iff, default]
    | cons name rest =>
      rw [if_neg (by simp), List.singleton_append, parted_opens]
      simp [OpensEmpty, String.join_cons]
  · rw [if_neg default, List.singleton_append, List.cons_append, parted_opens]
    simp [OpensEmpty, default]

end Blocks

/-! ## Files and units -/

/-- Every file that calls lead to prints as the calls say. -/
theorem file_printed (package : String) (calls : List Call) : Printed package calls := by
  have reached := build_reached package calls
  have text (indent : Indent) : (build package calls).renderWith indent =
      parted (blocks indent package (build package calls).imports (added calls)) := by
    rw [renderWith_blocks, reached.package, reached.body]
  refine { joined := ?joined, below := fun header => rfl, settled := ?settled, opening := ?opening }
  case joined =>
    exact ⟨_, reached.imports, fun other sorts => sorts.unique reached.imports, text⟩
  case settled =>
    intro other requested same indent
    have reachedOther := build_reached package other
    rw [renderWith_blocks, reachedOther.package, reachedOther.body, same, text,
      (reachedOther.imports.congr requested).unique reached.imports]
  case opening =>
    intro indent
    have none : (build package calls).imports = [] ↔ ∀ name, .request name ∉ calls := by
      rw [List.eq_nil_iff_forall_not_mem]
      exact forall_congr' fun name => not_congr (reached.imports.mem_iff name)
    rw [text, blocks_open, none]

/-- The calls that make the file of a descriptor: requests for the fixed imports
and for that of the container, and then the object. -/
def unitCalls (container : Container) (descriptor : Descriptor) : List Call :=
  [.request urlEncoder, .request standardCharsets] ++
    (if !descriptor.extractable.isEmpty && container.isQualified then [.request container.type]
      else []) ++
    [.add [(routeObject container descriptor).fragment]]

/-- The file of a unit is made by calls like any other file. -/
theorem routeFile_built (container : Container) (descriptor : Descriptor) :
    routeFile container descriptor =
      build descriptor.source.package (unitCalls container descriptor) := by
  unfold routeFile unitCalls build
  dsimp only
  split <;> rfl

private theorem unitCalls_imported (container : Container) (descriptor : Descriptor)
    (name : String) :
    .request name ∈ unitCalls container descriptor ↔ Imported container descriptor name := by
  have needed : (!descriptor.extractable.isEmpty && container.isQualified) = true ↔
      '.' ∈ container.type.toList ∧ ∃ field ∈ descriptor.fields, field.kind ≠ none := by
    simp [Descriptor.extractable, Container.isQualified, and_comm, Option.isSome_iff_ne_none]
  have container : .request name ∈ (if (!descriptor.extractable.isEmpty && container.isQualified)
      then [Call.request container.type] else []) ↔ name = container.type ∧
        '.' ∈ container.type.toList ∧ ∃ field ∈ descriptor.fields, field.kind ≠ none := by
    rw [← needed]
    split <;> simp [*]
  rw [unitCalls, List.mem_append, List.mem_append, container]
  simp [Imported, or_assoc]

private theorem unitCalls_added (container : Container) (descriptor : Descriptor) :
    added (unitCalls container descriptor) = [[(routeObject container descriptor).fragment]] := by
  unfold unitCalls
  split <;> rfl

/-- Whatever calls make a file, its text is the package, the requested names in
order and the added elements, parted by single empty lines. A unit is such a
file, below the header, with the fixed imports and that of the container where
one is due. -/
theorem files_parted : (∀ package calls, Printed package calls) ∧
    ∀ container descriptor, ∃ imports, Sorts (Imported container descriptor) imports ∧
      ((emitter container).emit descriptor).content = generatedHeader ++ "\n\n" ++
        parted (blocks Kotlin.indent descriptor.source.package imports
          [[(routeObject container descriptor).fragment]]) := by
  refine ⟨file_printed, fun container descriptor => ?_⟩
  have printed := file_printed descriptor.source.package (unitCalls container descriptor)
  obtain ⟨imports, sorts, -, text⟩ := printed.joined
  refine ⟨imports, sorts.congr (unitCalls_imported container descriptor), ?_⟩
  change (routeFile container descriptor).renderBelow generatedHeader = _
  rw [routeFile_built, printed.below, text, unitCalls_added]

/-- An empty line can come first: the one that parts an element without fragments,
which has no text, from the next one, and one that the first element brings along. -/
theorem separator_leads :
    blocks Kotlin.indent "" [] [[], [.line "x"]] = ["", "x\n"] ∧
      (build "" [.add [], .add [.line "x"]]).renderWith Kotlin.indent = "\nx\n" ∧
      OpensEmpty ((build "" [.add [], .add [.line "x"]]).renderWith Kotlin.indent) ∧
      (build "" [.add [.blank], .add [.line "x"]]).renderWith Kotlin.indent = "\n\nx\n" := by
  decide +kernel

/-- Requests print once and in order, above what has been added before them. -/
example :
    (build "app" [.request "c", .add [.line "x"], .request "b", .request "c"]).renderWith .tab =
      "package app\n\nimport b\nimport c\n\nx\n" := by decide +kernel

end TypedRoutes.FileSections
