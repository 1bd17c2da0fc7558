import Mathlib
import TypedRoutes.Proofs.BoundNames
import TypedRoutes.Proofs.FieldCoverage
import TypedRoutes.Proofs.FileSections

/-! The lines of a generated unit. A unit is laid out from a file and a tree,
and names and literals cannot break a line of it. Declared types and the type
of the container are written as they are given, so the line feeds in them, and
no others, come on top of the lines of the layout. -/
namespace TypedRoutes.LineStructure
open Pipeline Kotlin Route Layout PassExecution PassOutcome SoundManifests UsableNames BoundNames
open FieldCoverage (supported Becomes)

/-- The line feeds in a text. Texts are compared by this count, as a text with
none of them cannot break the line that it stands in. -/
def feeds (text : String) : Nat :=
  text.toList.count '\n'

/-- The lines of a text, parted by its line feeds. The last one is what comes
after the last of them, and may be empty. -/
def splitLines (text : String) : List String :=
  (text.toList.splitOn '\n').map String.ofList

/-- Lines with a line feed after each, as a layout prints its rows. -/
def joinLines (lines : List String) : String :=
  String.join (lines.map (· ++ "\n"))

/-- A row of a layout without the line break after it. -/
def rowLine : Row → String
  | .text depth content => indent.text depth ++ content
  | .blank => ""

/-- The lines that a unit is laid out from: the header, the package unless it is
the default one, the imports and the tree of the object. A line of them is not
always one of the text, since it can hold line feeds itself. -/
def structureLines (code : UnitCode) : List String :=
  [generatedHeader, ""] ++
    (if code.file.package = "" then [] else ["package " ++ code.file.package, ""]) ++
    code.file.imports.map ("import " ++ ·) ++ [""] ++
    (code.object.fragment.rows 0).map rowLine

/-- How many they are, by the number of fields, the number of those with an
extractor, and the number of lines for the package and for the container. What
the fields are called or typed has no part in it. -/
def lineCount (fields extractors package container : Nat) : Nat :=
  2 + 2 * package + (2 + container) + 1 +
    (1 + fields + (if fields = 0 then 0 else 1) + 3 + 4 + 4 * extractors + 7 + 1)

/-- The stored properties of a declaration that have an extractor. -/
def readable (declaration : Manifest.Declaration) : List Manifest.Property :=
  declaration.storedProperties.filter supported

/-- The imports of every unit, which its encoding function calls for. -/
def fixedImports : List String :=
  [urlEncoder, standardCharsets]

/-- The import lines that come on top of those: one when extractors read from a
qualified type that is not imported yet. -/
def containerImports (container : Container) (extractors : Nat) : List String :=
  if extractors ≠ 0 ∧ container.isQualified = true ∧ container.type ∉ fixedImports
    then [container.type] else []

/-- The line feeds in the type of a property, which no rule on manifests
excludes. -/
def typeFeeds (property : Manifest.Property) : Nat :=
  property.type.elim 0 feeds

/-! ## Texts and their lines -/

@[simp] private theorem feeds_append (first second : String) :
    feeds (first ++ second) = feeds first + feeds second := by
  simp [feeds]

private theorem feeds_eq_zero {text : String} : feeds text = 0 ↔ '\n' ∉ text.toList :=
  List.count_eq_zero

private theorem feeds_join (texts : List String) :
    feeds (String.join texts) = (texts.map feeds).sum := by
  induction texts with
  | nil => rfl
  | cons text rest ih => rw [String.join_cons, feeds_append, ih, List.map_cons, List.sum_cons]

private theorem feeds_intercalate {between : String} (unbroken : feeds between = 0)
    (parts : List String) :
    feeds (between.intercalate parts) = (parts.map feeds).sum := by
  induction parts with
  | nil => rfl
  | cons part rest ih =>
    cases rest with
    | nil => simp
    | cons next rest =>
      rw [String.intercalate_cons_cons, feeds_append, feeds_append, unbroken, ih]
      rfl

private theorem splitLines_unbroken {line : String} (unbroken : feeds line = 0) :
    splitLines line = [line] := by
  rw [splitLines, List.splitOn_eq_singleton (feeds_eq_zero.mp unbroken), List.map_singleton,
    String.ofList_toList]

private theorem splitLines_append (line rest : String) :
    splitLines (line ++ "\n" ++ rest) = splitLines line ++ splitLines rest := by
  have spelled : (line ++ "\n" ++ rest).toList = line.toList ++ '\n' :: rest.toList := by simp
  rw [splitLines, spelled, List.splitOn_append_cons_self, List.map_append, splitLines, splitLines]

private theorem joinLines_cons (line : String) (rest : List String) :
    joinLines (line :: rest) = line ++ "\n" ++ joinLines rest := by
  rw [joinLines, List.map_cons, String.join_cons, joinLines]

private theorem joinLines_append (first second : List String) :
    joinLines (first ++ second) = joinLines first ++ joinLines second := by
  rw [joinLines, List.map_append, String.join_append, joinLines, joinLines]

/-- Text made of lines has these lines, each split further where it is broken.
So the layout shows in the text except for broken lines. -/
theorem splitLines_joinLines (lines : List String) :
    splitLines (joinLines lines) = lines.flatMap splitLines ++ [""] := by
  induction lines with
  | nil => exact splitLines_unbroken rfl
  | cons line rest ih =>
    rw [joinLines_cons, splitLines_append, ih, List.flatMap_cons, List.append_assoc]

private theorem length_splitLines (text : String) : (splitLines text).length = feeds text + 1 := by
  rw [splitLines, List.length_map, feeds]
  induction text.toList with
  | nil => simp
  | cons c rest ih =>
    rw [List.splitOn_cons_eq_if_modifyHead]
    by_cases feed : c = '\n'
    · simp [feed, ih]
    · simp [feed, ih]

private theorem feeds_joinLines (lines : List String) :
    feeds (joinLines lines) = lines.length + (lines.map feeds).sum := by
  induction lines with
  | nil => rfl
  | cons line rest ih =>
    have feed : feeds "\n" = 1 := rfl
    rw [joinLines_cons, feeds_append, feeds_append, ih, feed, List.map_cons, List.sum_cons,
      List.length_cons]
    omega

/-! ## The lines of a layout -/

private theorem renderRows_lines (rows : List Row) :
    renderRows indent rows = joinLines (rows.map rowLine) := by
  rw [renderRows, joinLines, List.map_map]
  refine congrArg String.join (List.map_congr_left fun row _ => ?_)
  cases row <;> rfl

private theorem group_lines {α : Type} (depth : Nat) (text : α → String) (group : List α) :
    (rowsOf depth (group.map (.line <| text ·))).map rowLine =
      group.map (indent.text depth ++ text ·) := by
  induction group with
  | nil => rfl
  | cons first rest ih =>
    rw [List.map_cons, rowsOf, List.map_append, ih]
    rfl

private theorem appendFunctions_below (functions : List Function) {body : List Fragment}
    (below : body ≠ []) : appendFunctions body functions =
      body ++ functions.flatMap fun function => [.blank, function.fragment] := by
  induction functions generalizing body with
  | nil => rw [appendFunctions, List.flatMap_nil, List.append_nil]
  | cons function rest ih =>
    rw [appendFunctions, if_neg (by simpa using below), ih (by simp), List.flatMap_cons]
    simp

/-- One level of indentation. -/
def margin : String := "    "

/-- The lines of a function in an object, for a body of one line: signature,
body and end. -/
def functionLines (function : Function) : List String :=
  (function.fragment.rows 1).map rowLine

private theorem functionLines_return {function : Function} {expression : String}
    (returns : EmittedLiterals.Returns function expression) :
    functionLines function =
      [margin ++ function.signature, margin ++ margin ++ "return " ++ expression,
        margin ++ "\x7d"] := by
  have outer : indent.text 1 = margin := by decide
  have inner : indent.text 2 = margin ++ margin := by decide
  rw [functionLines, Function.fragment, returns]
  simp [Statement.fragment, Fragment.rows, rowsOf, rowLine, outer, inner, String.append_assoc]

/-- The lines of an object: its header, its properties, a blank line below them
if there are any, its functions with blank lines between them, and its end. -/
theorem object_lines (object : Object) {first : Function} {rest : List Function}
    (functions : object.functions = first :: rest) :
    (object.fragment.rows 0).map rowLine = ("object " ++ object.name ++ " \x7b") ::
      (object.properties.map (margin ++ ·.line) ++ (if object.properties = [] then [] else [""]) ++
        functionLines first ++ rest.flatMap ("" :: functionLines ·) ++ ["\x7d"]) := by
  have outer : indent.text 0 = "" := by decide
  have inner : indent.text 1 = margin := by decide
  have body : appendFunctions (object.properties.map (·.fragment)) object.functions =
      object.properties.map (·.fragment) ++ (if object.properties = [] then [] else [.blank]) ++
        [first.fragment] ++ rest.flatMap fun function => [.blank, function.fragment] := by
    rw [functions, appendFunctions, appendFunctions_below rest (by simp)]
    cases object.properties <;> rfl
  have properties : (rowsOf 1 (object.properties.map (·.fragment))).map rowLine =
      object.properties.map (indent.text 1 ++ ·.line) := group_lines 1 Property.line object.properties
  have others : (rowsOf 1 (rest.flatMap fun function => [.blank, function.fragment])).map rowLine =
      rest.flatMap ("" :: functionLines ·) := by
    clear functions body
    induction rest with
    | nil => rfl
    | cons function rest ih => simp [rowsOf, Fragment.rows, functionLines, rowLine, ih]
  have gap : (rowsOf 1 (if object.properties = [] then [] else [.blank])).map rowLine =
      if object.properties = [] then [] else [""] := by
    split <;> rfl
  rw [Object.fragment, Fragment.rows, body, rowsOf_append, rowsOf_append, rowsOf_append]
  simp only [List.map_cons, List.map_append, properties, gap, others, inner, functionLines, rowsOf,
    List.append_nil, Option.map_some, Option.toList_some, List.map_nil, rowLine, outer,
    String.empty_append]

variable {declaration : Manifest.Declaration} {settings : Manifest.Settings} {container : Container}
  {descriptor : Descriptor} {unit : GeneratedUnit} {code : UnitCode}

/-- The text of a unit is its lines. Every unit has an import; without one there
would be no section for imports and no blank line below them. -/
theorem content_lines (builtUp : BuiltUp unit code) (imported : code.file.imports ≠ []) :
    unit.content = joinLines (structureLines code) := by
  have top : indent.text 0 = "" := by decide
  have imports : (rowsOf 0 (code.file.imports.map (.line <| "import " ++ ·))).map rowLine =
      code.file.imports.map ("import " ++ ·) := by
    simpa only [top, String.empty_append] using group_lines 0 ("import " ++ ·) code.file.imports
  have rows : (rowsOf 0 ([.blank].intercalate code.file.sections)).map rowLine =
      (if code.file.package = "" then [] else ["package " ++ code.file.package, ""]) ++
        code.file.imports.map ("import " ++ ·) ++ [""] ++
        (code.object.fragment.rows 0).map rowLine := by
    have some : code.file.imports.isEmpty = false := by simpa using imported
    rw [SourceFile.sections, builtUp.body, some]
    split
    · simp [rowsOf_append, imports, rowsOf, Fragment.rows, rowLine]
    · simp [rowsOf_append, imports, rowsOf, Fragment.rows, rowLine, top]
  have header : generatedHeader ++ "\n\n" = joinLines [generatedHeader, ""] := by decide +kernel
  have render : code.file.render =
      joinLines ((rowsOf 0 ([.blank].intercalate code.file.sections)).map rowLine) := by
    rw [SourceFile.render, SourceFile.renderWith_sections, Builder.layOut_rows, renderRows_lines]
  rw [builtUp.content, SourceFile.renderBelow, header, render, rows, ← joinLines_append]
  simp only [structureLines, List.append_assoc]

/-! ## What cannot break a line -/

private theorem usable_feeds {name : String} (usable : isUsable name = true) : feeds name = 0 :=
  feeds_eq_zero.mpr (identifier_excludes '\n' (usable_identifier usable) (by decide))

private theorem package_feeds {package : String} (usable : UsablePackage package) :
    feeds package = 0 := by
  rw [← UnitPaths.intercalate_directoryNames package, feeds_intercalate (by decide)]
  refine List.sum_eq_zero (List.forall_mem_map.mpr fun name member => ?_)
  exact usable_feeds (UnitPaths.directoryName_usable usable member)

/-- Escaped text has no line feed, whatever the text, so keys and route names of
any kind stay within their literals. -/
theorem escape_feeds (text : String) : feeds (escape text) = 0 := by
  have written : ∀ c, '\n' ∉ escapeChar c := by
    intro c
    unfold escapeChar
    split <;> simp_all [eq_comm]
  rw [feeds_eq_zero, escape, String.toList_ofList, List.mem_flatMap]
  rintro ⟨c, -, member⟩
  exact written c member

private theorem literal_feeds (text : String) : feeds (literal text) = 0 := by
  have quote : feeds "\"" = 0 := by decide
  rw [literal, feeds_append, feeds_append, escape_feeds, quote]

private theorem reference_feeds {slot : Slot} (usable : isUsable slot.name = true) :
    feeds slot.reference = 0 := by
  have call : feeds "." + feeds encodeCall = 0 := by decide
  unfold Slot.reference
  split
  · rw [feeds_append, feeds_append, usable_feeds usable, Nat.zero_add, call]
  · exact usable_feeds usable

private theorem pathLiteral_feeds {template : Template}
    (usable : ∀ slot ∈ template.slots, isUsable slot.name = true) :
    feeds (pathLiteral template) = 0 := by
  have quote : feeds "\"" = 0 := by decide
  have slots : feeds (String.join (template.slots.map fun slot =>
      "/$\x7b" ++ slot.reference ++ "\x7d")) = 0 := by
    rw [feeds_join, List.map_map]
    refine List.sum_eq_zero (List.forall_mem_map.mpr fun slot member => ?_)
    have marks : feeds "/$\x7b" = 0 ∧ feeds "\x7d" = 0 := by decide
    simp only [Function.comp_apply, feeds_append, marks, reference_feeds (usable slot member),
      Nat.add_zero]
  rw [pathLiteral, feeds_append, feeds_append, feeds_append, escape_feeds, slots, quote]

/-- Besides its nullable mark a type is kept as it is, with all its line feeds.
-/
theorem nonNullType_feeds (type : String) : feeds (nonNullType type) = feeds type := by
  unfold nonNullType
  split
  · rename_i marked
    obtain ⟨front, spelled⟩ := List.getLast?_eq_some_iff.mp marked
    rw [feeds, feeds, String.toList_ofList, spelled, List.dropLast_concat, List.count_append]
    rfl
  · rfl

private theorem insertName_perm (name : String) {names : List String}
    (increasing : names.Pairwise (· < ·)) :
    (insertName name names).Perm (if name ∈ names then names else name :: names) := by
  have distinct := (FileSections.insertName_increasing name increasing).nodup
  split
  · rename_i known
    refine (List.perm_ext_iff_of_nodup distinct increasing.nodup).mpr fun other => ?_
    rw [FileSections.mem_insertName, or_iff_right_of_imp]
    rintro rfl
    exact known
  · rename_i fresh
    refine (List.perm_ext_iff_of_nodup distinct ?_).mpr fun other => ?_
    · exact List.nodup_cons.mpr ⟨fresh, increasing.nodup⟩
    · rw [FileSections.mem_insertName, List.mem_cons]

/-- The imports of a unit are the fixed ones and that of the container, unless
it is one of these already. -/
theorem routeFile_imports (container : Container) (descriptor : Descriptor) :
    (routeFile container descriptor).imports.Perm
      (containerImports container descriptor.extractable.length ++ fixedImports) := by
  have base : insertName standardCharsets (insertName urlEncoder []) = fixedImports := by
    decide +kernel
  have increasing : fixedImports.Pairwise (· < ·) := by decide +kernel
  have inserted := insertName_perm container.type increasing
  have some : descriptor.extractable.length ≠ 0 ↔ descriptor.extractable.isEmpty = false := by
    rw [ne_eq, List.length_eq_zero_iff, List.isEmpty_eq_false_iff]
  simp only [routeFile, containerImports, some, Bool.and_eq_true, Bool.not_eq_true']
  by_cases needed : descriptor.extractable.isEmpty = false ∧ container.isQualified = true
  · rw [if_pos needed]
    simp only [SourceFile.addImport, SourceFile.add, base]
    by_cases known : container.type ∈ fixedImports
    · simpa [known] using inserted
    · simpa [known, needed] using inserted
  · rw [if_neg needed, if_neg fun all => needed ⟨all.1, all.2.1⟩]
    simp only [SourceFile.addImport, SourceFile.add, base]
    exact .refl _

/-- A signature holds the line feeds of what it names. Its keywords and its
punctuation have none. -/
theorem signature_feeds (function : Function) :
    feeds function.signature = function.receiver.elim 0 feeds + feeds function.name +
      (function.params.map fun param => feeds param.name + feeds param.type).sum +
        function.returns.elim 0 feeds := by
  have keywords : feeds "private " = 0 ∧ feeds "fun " = 0 ∧ feeds "" = 0 := by decide
  have marks : feeds "(" = 0 ∧ feeds ")" = 0 ∧ feeds "." = 0 ∧ feeds ": " = 0 ∧
    feeds " \x7b" = 0 := by decide
  have params : feeds (", ".intercalate (function.params.map Param.text)) =
      (function.params.map fun param => feeds param.name + feeds param.type).sum := by
    rw [feeds_intercalate (by decide), List.map_map]
    refine congrArg List.sum (List.map_congr_left fun param _ => ?_)
    simp only [Function.comp_apply, Param.text, feeds_append, marks, Nat.add_zero]
  have visibility : feeds (if function.isPrivate then "private " else "") = 0 := by
    split
    · exact keywords.1
    · exact keywords.2.2
  rw [Function.signature]
  simp only [feeds_append, params, visibility, marks, keywords]
  cases function.receiver <;> cases function.returns <;>
    simp [feeds_append, marks, keywords]

/-- Where the line feeds in a unit come from: the signatures and the imports
hold those of types, and everything else holds none. Names cannot have any, as
the manifest is checked for identifiers, and types can, as nothing checks them.
-/
structure Broken (container : Container) (declaration : Manifest.Declaration) (code : UnitCode) :
    Prop where
  package : code.file.package = declaration.package ∧ feeds declaration.package = 0
  imports : code.file.imports.Perm
    (containerImports container code.extractors.length ++ fixedImports)
  object : feeds code.object.name = 0
  constants : ∀ constant ∈ code.object.properties, feeds constant.line = 0
  destination : feeds code.destination.signature = 0 ∧
    ∃ expression, EmittedLiterals.Returns code.destination expression ∧ feeds expression = 0
  route : feeds code.route.signature = (declaration.storedProperties.map typeFeeds).sum ∧
    ∃ expression, EmittedLiterals.Returns code.route expression ∧ feeds expression = 0
  extractors : ∀ extractor ∈ code.extractors,
    feeds extractor.signature = feeds (Text.shortName container.type) ∧
      ∃ expression, EmittedLiterals.Returns extractor expression ∧ feeds expression = 0
  constantCount : code.object.properties.length = declaration.storedProperties.length
  extractorCount : code.extractors.length = (readable declaration).length

private theorem constant_feeds {field : Field} (usable : isUsable field.name = true) :
    feeds (keyConstant field).line = 0 := by
  have name : feeds (Text.upper field.name) = 0 :=
    usable_feeds (isUsable_iff.mpr (usable_upper (isUsable_iff.mp usable)))
  have fixed : feeds "val " = 0 ∧ feeds ": " = 0 ∧ feeds "String" = 0 ∧ feeds " = " = 0 := by
    decide
  simp only [Property.line, keyConstant, feeds_append, name, fixed, literal_feeds, Nat.add_zero]

private theorem route_feeds (descriptor : Descriptor)
    (usable : ∀ field ∈ descriptor.fields, isUsable field.name = true) :
    feeds (routeFunction descriptor).signature =
      (descriptor.fields.map (feeds ·.declaredType)).sum := by
  have fixed : feeds "route" = 0 ∧ feeds "String" = 0 := by decide
  have params : ((routeFunction descriptor).params.map fun param =>
      feeds param.name + feeds param.type) = descriptor.fields.map (feeds ·.declaredType) := by
    rw [routeFunction, List.map_map]
    refine List.map_congr_left fun field member => ?_
    simp only [Function.comp_apply, nonNullType_feeds, usable_feeds (usable field member),
      Nat.zero_add]
  rw [signature_feeds, params]
  simp only [routeFunction, Option.elim_none, Option.elim_some, fixed, Nat.zero_add, Nat.add_zero]

private theorem extractor_feeds {field : Field} {extractor : Function}
    (usable : isUsable field.name = true) (param : isUsable container.param = true)
    (made : extractor? container field = some extractor) :
    feeds extractor.signature = feeds (Text.shortName container.type) ∧
      ∃ expression, EmittedLiterals.Returns extractor expression ∧ feeds expression = 0 := by
  obtain ⟨primitive, -, rfl⟩ := Option.map_eq_some_iff.mp made
  have returns : feeds (nullable primitive.name) = 0 := by cases primitive <;> decide
  have call : feeds (readCall primitive) = 0 := by cases primitive <;> decide
  have marks : feeds "." = 0 ∧ feeds "(" = 0 ∧ feeds ")" = 0 := by decide
  constructor
  · simp only [signature_feeds, Option.elim_none, Option.elim_some, usable_feeds usable,
      List.map_cons, List.map_nil, List.sum_singleton, usable_feeds param, returns, Nat.zero_add,
      Nat.add_zero]
  · refine ⟨container.param ++ "." ++ readCall primitive ++ "(" ++ literal field.name ++ ")",
      ?_, ?_⟩
    · simp only [EmittedLiterals.Returns, String.append_assoc]
    · simp only [feeds_append, usable_feeds param, marks, call, literal_feeds, Nat.add_zero]

/-- As many extractors are made as properties can be read back. -/
private theorem extractors_counted
    (built : Descriptor.ofDeclaration settings declaration = .ok descriptor) :
    (descriptor.fields.filterMap (extractor? container)).length = (readable declaration).length :=
  (FieldCoverage.extractors_for (FieldCoverage.fields_become built)).length_eq

private theorem extractable_counted
    (built : Descriptor.ofDeclaration settings declaration = .ok descriptor) :
    descriptor.extractable.length = (readable declaration).length := by
  have kept : List.Forall₂ (Becomes settings) (readable declaration)
      (descriptor.fields.filter (·.kind.isSome)) := by
    refine List.rel_filter ?_ (FieldCoverage.fields_become built)
    intro property field becomes
    simp only [← becomes.supported_iff]
  exact kept.length_eq.symm

private theorem declared_feeds
    (built : Descriptor.ofDeclaration settings declaration = .ok descriptor) :
    descriptor.fields.map (feeds ·.declaredType) =
      declaration.storedProperties.map typeFeeds := by
  refine FieldCoverage.listed_eq (FieldCoverage.fields_become built) ?_
  rintro property field ⟨type, typed, rfl⟩
  rw [typeFeeds, typed, Option.elim_some]

private theorem emitted_broken (sound : SoundDeclaration declaration)
    (usable : isUsable container.param = true)
    (built : Descriptor.ofDeclaration settings declaration = .ok descriptor) :
    Broken container declaration (unitCode container descriptor) := by
  have named := emitted_named [] container built
  have names : ∀ field ∈ descriptor.fields, isUsable field.name = true := by
    intro field member
    have listed : field.name ∈ descriptor.fields.map (·.name) := List.mem_map_of_mem member
    rw [Descriptors.fields_named built] at listed
    exact stored_usable sound _ listed
  constructor
  case package =>
    have package := (emitted_builtUp [] container descriptor).package.trans named.package
    exact ⟨package, package_feeds sound.package⟩
  case imports =>
    rw [unitCode, extractors_counted built, ← extractable_counted built]
    exact routeFile_imports container descriptor
  case object =>
    have suffix : feeds "Destination" = 0 := by decide
    rw [named.object, feeds_append, usable_feeds sound.name, suffix]
  case constants =>
    exact List.forall_mem_map.mpr fun field member => constant_feeds (names field member)
  case destination =>
    have fixed : feeds "destination" = 0 ∧ feeds "String" = 0 := by decide
    refine ⟨?_, _, rfl, literal_feeds _⟩
    rw [signature_feeds]
    simp [unitCode, destinationFunction, fixed]
  case route =>
    refine ⟨?_, _, rfl, pathLiteral_feeds (List.forall_mem_map.mpr names)⟩
    rw [← declared_feeds built]
    exact route_feeds descriptor names
  case extractors =>
    intro extractor member
    obtain ⟨field, held, made⟩ := List.mem_filterMap.mp member
    exact extractor_feeds (names field held) usable made
  case constantCount =>
    rw [unitCode, routeObject, List.length_map]
    exact (FieldCoverage.fields_become built).length_eq.symm
  case extractorCount => exact extractors_counted built

/-! ## The lines of a unit -/

/-- A line that quotes types of the manifest: the signatures of the route
function and of extractors, and the import of the container. These are the lines
that can be broken. -/
inductive Quotes (container : Container) (code : UnitCode) : String → Prop where
  | route : Quotes container code (margin ++ code.route.signature)
  | container : Quotes container code ("import " ++ container.type)
  | extractor {extractor : Function} (member : extractor ∈ code.extractors) :
      Quotes container code (margin ++ extractor.signature)

private theorem margin_feeds : feeds margin = 0 := by decide

private theorem functionLines_feeds {function : Function} {expression : String}
    (returns : EmittedLiterals.Returns function expression) (unbroken : feeds expression = 0) :
    (functionLines function).map feeds = [feeds function.signature, 0, 0] := by
  have fixed : feeds "return " = 0 ∧ feeds "\x7d" = 0 := by decide
  simp only [functionLines_return returns, List.map_cons, List.map_nil, feeds_append, margin_feeds,
    unbroken, fixed, Nat.add_zero, Nat.zero_add]

private theorem encodeFunction_feeds :
    (functionLines encodeFunction).map feeds = [0, 0, 0, 0, 0, 0] := by
  decide +kernel

private theorem functions_feeds {functions : List Function} {broken : List Nat}
    (alike : ∀ function ∈ functions, (functionLines function).map feeds = broken) :
    (functions.flatMap ("" :: functionLines ·)).map feeds =
      functions.flatMap fun _ => 0 :: broken := by
  rw [List.map_flatMap]
  refine List.flatMap_congr fun function member => ?_
  rw [List.map_cons, alike function member]
  rfl

namespace Broken

private theorem package_lines (broken : Broken container declaration code) :
    (if code.file.package = "" then [] else ["package " ++ code.file.package, ""]).map feeds =
      if declaration.package = "" then [] else [0, 0] := by
  have fixed : feeds "package " = 0 ∧ feeds "" = 0 := by decide
  obtain ⟨same, unbroken⟩ := broken.package
  rw [same]
  split
  · rfl
  · simp only [List.map_cons, List.map_nil, feeds_append, fixed, unbroken, Nat.add_zero]

private theorem object_line (broken : Broken container declaration code) :
    feeds ("object " ++ code.object.name ++ " \x7b") = 0 := by
  have fixed : feeds "object " = 0 ∧ feeds " \x7b" = 0 := by decide
  rw [feeds_append, feeds_append, fixed.1, broken.object, fixed.2]

private theorem constant_lines (broken : Broken container declaration code) :
    (code.object.properties.map (margin ++ ·.line)).map feeds =
      code.object.properties.map fun _ => 0 := by
  rw [List.map_map]
  refine List.map_congr_left fun constant member => ?_
  rw [Function.comp_apply, feeds_append, margin_feeds, broken.constants constant member]

private theorem destination_lines (broken : Broken container declaration code) :
    (functionLines code.destination).map feeds = [0, 0, 0] := by
  obtain ⟨plain, key, returned, unbroken⟩ := broken.destination
  rw [functionLines_feeds returned unbroken, plain]

/-- The line feeds in each line of a unit, in order. Length and sum of this list
are the two counts that a unit is described by. -/
theorem structure_feeds (broken : Broken container declaration code) (builtUp : BuiltUp unit code) :
    (structureLines code).map feeds =
      [0, 0] ++ (if declaration.package = "" then [] else [0, 0]) ++
        code.file.imports.map feeds ++ [0] ++ 0 :: (code.object.properties.map (fun _ => 0) ++
          (if code.object.properties = [] then [] else [0]) ++ [0, 0, 0] ++
          [0, (declaration.storedProperties.map typeFeeds).sum, 0, 0] ++
          (code.extractors.flatMap fun _ => [0, feeds (Text.shortName container.type), 0, 0]) ++
          [0, 0, 0, 0, 0, 0, 0] ++ [0]) := by
  have route : (functionLines code.route).map feeds =
      [(declaration.storedProperties.map typeFeeds).sum, 0, 0] := by
    obtain ⟨types, path, returned, unbroken⟩ := broken.route
    rw [functionLines_feeds returned unbroken, types]
  have extractors : (code.extractors.flatMap ("" :: functionLines ·)).map feeds =
      code.extractors.flatMap fun _ => [0, feeds (Text.shortName container.type), 0, 0] := by
    refine functions_feeds fun extractor member => ?_
    obtain ⟨short, expression, returned, unbroken⟩ := broken.extractors extractor member
    rw [functionLines_feeds returned unbroken, short]
  have imports : (code.file.imports.map ("import " ++ ·)).map feeds =
      code.file.imports.map feeds := by
    rw [List.map_map]
    refine List.map_congr_left fun name _ => ?_
    have fixed : feeds "import " = 0 := by decide
    rw [Function.comp_apply, feeds_append, fixed, Nat.zero_add]
  have gap : (if code.object.properties = [] then [] else [""]).map feeds =
      if code.object.properties = [] then [] else [0] := by
    split <;> rfl
  have fixed : feeds generatedHeader = 0 ∧ feeds "" = 0 ∧ feeds "\x7d" = 0 := by decide +kernel
  rw [structureLines, object_lines code.object builtUp.functions]
  simp only [List.map_append, List.map_cons, List.map_nil, List.flatMap_cons, List.flatMap_append,
    List.flatMap_nil, broken.package_lines, imports, broken.constant_lines, gap,
    broken.destination_lines, route, extractors, encodeFunction_feeds, broken.object_line, fixed,
    List.append_nil, List.cons_append, List.append_assoc]

/-- How many lines a unit is laid out from, by what its declaration stores
alone. -/
theorem structure_length (broken : Broken container declaration code)
    (builtUp : BuiltUp unit code) :
    (structureLines code).length = lineCount declaration.storedProperties.length
      (readable declaration).length
      (if declaration.package = "" then 0 else 1)
      (containerImports container (readable declaration).length).length := by
  have imports : code.file.imports.length = (containerImports container
      (readable declaration).length).length + 2 := by
    rw [broken.imports.length_eq, List.length_append, broken.extractorCount]
    rfl
  have package : (if declaration.package = "" then [] else [0, 0]).length =
      2 * if declaration.package = "" then 0 else 1 := by
    split <;> rfl
  have gap : (if code.object.properties = [] then [] else [0]).length =
      if declaration.storedProperties.length = 0 then 0 else 1 := by
    simp only [← broken.constantCount, List.length_eq_zero_iff]
    split <;> rfl
  have extractors : (code.extractors.flatMap fun _ =>
      [0, feeds (Text.shortName container.type), 0, 0]).length =
      4 * (readable declaration).length := by
    simp [← broken.extractorCount, List.length_flatMap, Nat.mul_comm]
  rw [← List.length_map feeds, broken.structure_feeds builtUp, lineCount]
  simp only [List.length_append, List.length_cons, List.length_nil, List.length_map, package,
    imports, gap, extractors, broken.constantCount]
  omega

/-- How many line feeds they hold: those of every stored type, once for its
parameter, and those of the container, wherever it is named. -/
theorem structure_sum (broken : Broken container declaration code)
    (builtUp : BuiltUp unit code) :
    ((structureLines code).map feeds).sum = (declaration.storedProperties.map typeFeeds).sum +
      ((containerImports container
        (readable declaration).length).map feeds).sum +
      (readable declaration).length *
        feeds (Text.shortName container.type) := by
  have imports : (code.file.imports.map feeds).sum = ((containerImports container
      (readable declaration).length).map feeds).sum := by
    have fixed : (fixedImports.map feeds).sum = 0 := by decide +kernel
    rw [(broken.imports.map feeds).sum_eq, List.map_append, List.sum_append, fixed,
      broken.extractorCount, Nat.add_zero]
  have package : (if declaration.package = "" then [] else [0, 0]).sum = 0 := by
    split <;> rfl
  have gap : (if code.object.properties = [] then [] else [0]).sum = 0 := by
    split <;> rfl
  have extractors : (code.extractors.flatMap fun _ =>
      [0, feeds (Text.shortName container.type), 0, 0]).sum =
      (readable declaration).length * feeds (Text.shortName container.type) := by
    simp [← broken.extractorCount, List.flatMap_def, List.sum_flatten]
  rw [broken.structure_feeds builtUp]
  simp only [List.sum_append, List.sum_cons, List.sum_nil, List.map_const', List.sum_replicate,
    package, imports, gap, extractors, smul_zero]
  omega

end Broken

/-- A line without a line feed, or one that quotes types. No other line is in a
unit. -/
def Accounted (container : Container) (code : UnitCode) (line : String) : Prop :=
  feeds line = 0 ∨ Quotes container code line

private theorem unbroken_accounted {lines : List String}
    (unbroken : ∀ count ∈ lines.map feeds, count = 0) :
    ∀ line ∈ lines, Accounted container code line :=
  fun _ member => .inl (unbroken _ (List.mem_map_of_mem member))

private theorem functionLines_accounted {function : Function} {expression : String}
    (returns : EmittedLiterals.Returns function expression) (unbroken : feeds expression = 0)
    (signature : Accounted container code (margin ++ function.signature)) :
    ∀ line ∈ functionLines function, Accounted container code line := by
  have counts := functionLines_feeds returns unbroken
  rw [functionLines_return returns] at counts ⊢
  have others := (List.cons.inj counts).2
  refine List.forall_mem_cons.mpr ⟨signature, unbroken_accounted ?_⟩
  rw [others]
  simp

private theorem Broken.imports_accounted (broken : Broken container declaration code) :
    ∀ line ∈ code.file.imports.map ("import " ++ ·), Accounted container code line := by
  refine List.forall_mem_map.mpr fun name member => ?_
  rcases List.mem_append.mp (broken.imports.mem_iff.mp member) with added | fixed
  · unfold containerImports at added
    split at added
    · rw [List.mem_singleton.mp added]
      exact .inr .container
    · cases added
  · have unbroken : ∀ name ∈ fixedImports, feeds ("import " ++ name) = 0 := by decide +kernel
    exact .inl (unbroken name fixed)

/-- The functions of a unit only quote types in the signatures of the route
function and the extractors. -/
private theorem Broken.functions_accounted (broken : Broken container declaration code) :
    (∀ line ∈ functionLines code.destination, Accounted container code line) ∧
      (∀ line ∈ functionLines code.route, Accounted container code line) ∧
        (∀ line ∈ code.extractors.flatMap ("" :: functionLines ·), Accounted container code line) ∧
          ∀ line ∈ functionLines encodeFunction, Accounted container code line := by
  refine ⟨?destination, ?route, ?extractors, ?encode⟩
  case destination =>
    apply unbroken_accounted
    rw [broken.destination_lines]
    simp
  case route =>
    obtain ⟨-, path, returned, unbroken⟩ := broken.route
    exact functionLines_accounted returned unbroken (.inr .route)
  case extractors =>
    refine List.forall_mem_flatMap.mpr fun extractor member => ?_
    obtain ⟨-, expression, returned, unbroken⟩ := broken.extractors extractor member
    exact List.forall_mem_cons.mpr
      ⟨.inl rfl, functionLines_accounted returned unbroken (.inr (.extractor member))⟩
  case encode =>
    apply unbroken_accounted
    rw [encodeFunction_feeds]
    simp

/-- Every line of a unit is unbroken or quotes types, so a broken line can be
traced to the type that breaks it. -/
theorem Broken.accounted (broken : Broken container declaration code)
    (builtUp : BuiltUp unit code) :
    ∀ line ∈ structureLines code, Accounted container code line := by
  have package : ∀ line ∈ (if code.file.package = "" then [] else
      ["package " ++ code.file.package, ""]), Accounted container code line := by
    apply unbroken_accounted
    rw [broken.package_lines]
    split <;> simp
  have constants : ∀ line ∈ code.object.properties.map (margin ++ ·.line),
      Accounted container code line := by
    apply unbroken_accounted
    rw [broken.constant_lines]
    simp
  have empty : Accounted container code "" := .inl rfl
  have gap : ∀ line ∈ (if code.object.properties = [] then [] else [""]),
      Accounted container code line := by
    split
    · exact List.forall_mem_nil _
    · exact List.forall_mem_singleton.mpr empty
  obtain ⟨destination, route, extractors, encode⟩ := broken.functions_accounted
  have header : Accounted container code generatedHeader := .inl (by decide +kernel)
  have close : Accounted container code "\x7d" := .inl (by decide)
  rw [structureLines, object_lines code.object builtUp.functions]
  simp only [List.flatMap_cons, List.flatMap_append, List.flatMap_nil, List.append_nil,
    List.forall_mem_append, List.forall_mem_cons]
  have none := List.forall_mem_nil (Accounted container code)
  exact ⟨⟨⟨⟨⟨header, empty, none⟩, package⟩, broken.imports_accounted⟩, empty, none⟩,
    .inl broken.object_line,
    ⟨⟨⟨constants, gap⟩, destination⟩, ⟨empty, route⟩, extractors, empty, encode⟩, close, none⟩

private theorem shortName_feeds {name : String} (unbroken : feeds name = 0) :
    feeds (Text.shortName name) = 0 := by
  rw [feeds_eq_zero] at unbroken ⊢
  rw [Text.shortName, String.toList_ofList, Text.afterLast, List.mem_reverse]
  intro member
  exact unbroken (List.mem_reverse.mp ((List.takeWhile_prefix _).subset member))

/-- How the lines of a unit come about. They are those of its layout, whose
number is that of fields, extractors, package and container imports, and which
are parted further only where types hold line feeds. -/
structure LaidOut (container : Container) (declaration : Manifest.Declaration)
    (unit : GeneratedUnit) (code : UnitCode) : Prop where
  builtUp : BuiltUp unit code
  parts : Broken container declaration code
  split : splitLines unit.content = (structureLines code).flatMap splitLines ++ [""]
  lines : (structureLines code).length = lineCount declaration.storedProperties.length
    (readable declaration).length (if declaration.package = "" then 0 else 1)
    (containerImports container (readable declaration).length).length
  quotes : ∀ line ∈ structureLines code,
    splitLines line = [line] ∨ Quotes container code line
  /-- The last line is the empty one below the last line feed. -/
  total : (splitLines unit.content).length = (structureLines code).length +
    ((declaration.storedProperties.map typeFeeds).sum +
      ((containerImports container (readable declaration).length).map feeds).sum +
      (readable declaration).length * feeds (Text.shortName container.type)) + 1
  whole : (∀ property ∈ declaration.storedProperties, typeFeeds property = 0) →
    feeds container.type = 0 → splitLines unit.content = structureLines code ++ [""]

private theorem Broken.laidOut (broken : Broken container declaration code)
    (builtUp : BuiltUp unit code) : LaidOut container declaration unit code := by
  have imported : code.file.imports ≠ [] := by
    intro none
    have length := broken.imports.length_eq
    simp [none, fixedImports] at length
  have content := content_lines builtUp imported
  have split : splitLines unit.content = (structureLines code).flatMap splitLines ++ [""] := by
    rw [content, splitLines_joinLines]
  refine ⟨builtUp, broken, split, broken.structure_length builtUp, ?_, ?_, ?_⟩
  · intro line member
    exact (broken.accounted builtUp line member).imp_left splitLines_unbroken
  · rw [length_splitLines, content, feeds_joinLines, broken.structure_sum builtUp]
  · intro types type
    have none : ((structureLines code).map feeds).sum = 0 := by
      have stored : (declaration.storedProperties.map typeFeeds).sum = 0 :=
        List.sum_eq_zero (List.forall_mem_map.mpr types)
      have added :
          ((containerImports container (readable declaration).length).map feeds).sum = 0 := by
        unfold containerImports
        split
        · simpa using type
        · rfl
      rw [broken.structure_sum builtUp, stored, added, shortName_feeds type, Nat.mul_zero]
    have whole : (structureLines code).flatMap splitLines = structureLines code := by
      have single : ∀ line ∈ structureLines code, splitLines line = [line] := by
        intro line member
        have unbroken := List.sum_eq_zero_iff.mp none (feeds line) (List.mem_map_of_mem member)
        exact splitLines_unbroken unbroken
      rw [List.flatMap_congr single]
      exact List.flatMap_singleton' _
    rw [split, whole]

/-- A unit of a declaration of the manifest, with the lines of its layout. -/
def Structured (manifest : Manifest) (unit : GeneratedUnit) : Prop :=
  ∃ declaration ∈ manifest.declarations, ∃ settings descriptor,
    Descriptor.ofDeclaration settings declaration = .ok descriptor ∧
      unit.source = declaration.id ∧
      LaidOut (.ofSettings manifest.settings) declaration unit
        (unitCode (.ofSettings manifest.settings) descriptor)

/-- The units that a pass files for a sound manifest have the lines of their
layouts, under whatever settings their declarations were found and built. -/
theorem filed_structured {manifest : Manifest} (sound : Sound manifest) {marker : String}
    {context : Context} (files : filed context = outcome (.ofManifest manifest) settings
      (emitter (.ofSettings manifest.settings)) marker)
    (member : unit ∈ context.units) : Structured manifest unit := by
  obtain ⟨declaration, discovered, descriptor, -, built, rfl⟩ :=
    (PassPartition.unit_emitted files).mp member
  have declared : declaration ∈ manifest.declarations := List.mem_of_mem_filter discovered
  have broken : Broken (.ofSettings manifest.settings) declaration (unitCode _ descriptor) :=
    emitted_broken (sound.declarations declaration declared) sound.containerParam built
  exact ⟨declaration, declared, settings, descriptor, built, PassPartition.described_source built,
    broken.laidOut (emitted_builtUp _ _ descriptor)⟩

/-- A pass in Kotlin over a manifest that was read from a text emits units with
the lines of their layouts: on its own it always comes to its end, and plugins
and further phases change nothing as long as they leave alone what is filed. -/
theorem units_structured {σ : Type} {manifest : Manifest} {source file : String}
    (accepted : Manifest.parse source file = .ok manifest) :
    (∀ lints, ∃ context,
      ({ Command.kotlinGenerator manifest [] with lints } : Generator σ).run
        (.ofManifest manifest) = pure context ∧
          ∀ unit ∈ context.units, Structured manifest unit) ∧
    ∀ generator : Generator σ, generator.emitter = emitter (.ofSettings manifest.settings) →
      (∀ plugin ∈ generator.plugins, Restrained plugin) →
      (∀ phase ∈ generator.phases, LeavesFiled phase.run) →
      ∀ context state final, Succeeds (generator.run (.ofManifest manifest)) state context final →
        ∀ unit ∈ context.units, Structured manifest unit := by
  have sound := (parse_ok.mp accepted).2
  constructor
  · intro lints
    exact ⟨_, Generator.run_standard _ lints (.ofManifest manifest),
      fun unit => filed_structured sound (settle_files lints _)⟩
  · intro generator kotlin restrained further context state final ran unit
    obtain ⟨settings, marker, files⟩ := run_files restrained further ran
    exact filed_structured sound (kotlin ▸ files)

/-- A declaration with a type that goes over two lines, which the manifest may
have. -/
def wrappedText : String :=
  "[[declaration]]\nname=\"Page\"\n" ++
  "annotations=[\x7bname=\"Destination\",args=[\"page\"]\x7d]\n" ++
  "[[declaration.properties]]\nname=\"tags\"\ntype=\"Map<String,\\nInt>\"\n"

def wrappedDeclaration : Manifest.Declaration where
  name := "Page"
  markers := [⟨"Destination", ["page"]⟩]
  properties := [{ name := "tags", type := some "Map<String,\nInt>" }]

def wrappedManifest : Manifest where
  declarations := [wrappedDeclaration]

private theorem wrapped_accepted :
    Manifest.parse wrappedText "wayfinder.toml" = .ok wrappedManifest :=
  parse_checked (by cbv) (by rfl)

theorem units_structured_wrapped :
    Manifest.parse wrappedText "wayfinder.toml" = .ok wrappedManifest ∧
      ∃ context final,
        Succeeds ((Command.kotlinGenerator wrappedManifest [UnitPaths.counting]).run
          (.ofManifest wrappedManifest)) 0 context final ∧
        context.units.map (·.name) = ["PageDestination"] ∧
        ∀ unit ∈ context.units, Structured wrappedManifest unit := by
  refine ⟨wrapped_accepted, ?_⟩
  have shown : ((ExceptT.run ((Command.kotlinGenerator wrappedManifest
      [UnitPaths.counting]).run (.ofManifest wrappedManifest))).run 0).1.toOption.map
        (fun context => context.units.map (·.name)) = some ["PageDestination"] := by
    decide +kernel
  obtain ⟨context, final, ran, names⟩ := succeeds_shown shown
  have restrained : ∀ plugin ∈
      (Command.kotlinGenerator wrappedManifest [UnitPaths.counting]).plugins,
      Restrained plugin := by
    intro plugin member
    have same : plugin = UnitPaths.counting := List.mem_singleton.mp member
    rw [same]
    exact UnitPaths.counting_restrained
  exact ⟨context, final, ran, names, (units_structured wrapped_accepted).2 _ rfl restrained
    (List.forall_mem_nil _) context 0 final ran⟩

/-- The descriptor that is built of it. The type has come through unchanged. -/
def wrappedDescriptor : Descriptor where
  routeName := "page"
  fields := [⟨"tags", "Map<String,\nInt>", none, false⟩]
  source := ⟨"", "Page"⟩

/-- The lines of its unit are not those of the layout, since the signature of
the route function goes over two lines. -/
theorem wrapped_lines_broken :
    Manifest.parse wrappedText "wayfinder.toml" = .ok wrappedManifest ∧
      ∃ context, (Command.kotlinGenerator wrappedManifest [] : Generator Unit).run
          (.ofManifest wrappedManifest) = pure context ∧
        ∃ unit ∈ context.units, ∃ code, code = unitCode (.ofSettings {}) wrappedDescriptor ∧
          BuiltUp unit code ∧ splitLines unit.content ≠ structureLines code ++ [""] := by
  have sound := (parse_ok.mp wrapped_accepted).2
  have built : Descriptor.ofDeclaration wrappedManifest.settings wrappedDeclaration =
      .ok wrappedDescriptor := by
    decide +kernel
  have found : wrappedDeclaration ∈ (Host.ofManifest wrappedManifest).marked "Destination" := by
    decide +kernel
  have broken : Broken (.ofSettings {}) wrappedDeclaration (unitCode _ wrappedDescriptor) :=
    emitted_broken (sound.declarations wrappedDeclaration (.head _)) sound.containerParam built
  have builtUp := emitted_builtUp wrappedManifest.sourceFiles (.ofSettings {}) wrappedDescriptor
  refine ⟨wrapped_accepted, _, Generator.run_standard _ standardLints (.ofManifest wrappedManifest),
    _, ?_, _, rfl, builtUp, ?_⟩
  · exact (PassPartition.unit_emitted (settle_files _ _)).mpr
      ⟨wrappedDeclaration, found, wrappedDescriptor, by decide +kernel, built, rfl⟩
  · intro same
    have types : (wrappedDeclaration.storedProperties.map typeFeeds).sum = 1 := by decide +kernel
    have total := (broken.laidOut builtUp).total
    rw [same, types, List.length_append, List.length_singleton] at total
    omega

end TypedRoutes.LineStructure
