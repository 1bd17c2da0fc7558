import TypedRoutes.Proofs.BoundNames

/-! Calls of the encoding helper in route paths. The marker of a property alone
decides whether its parameter is encoded, while the helper can only be called
on text. So the calls of a unit fit the helper exactly when the properties that
its declaration marks are declared as text, which nothing checks. -/
namespace TypedRoutes.EncodeCalls
open Pipeline Kotlin Route LiteralReading EmittedLiterals BoundNames PassExecution PassOutcome
  SoundManifests

/-- A stored property with the parameter of the route function that stands for
it, and the expression that the path refers to that parameter by. -/
structure Argument where
  property : Manifest.Property
  param : Param
  reference : String

/-- The call of the helper on a parameter, as it is written in the path. -/
def encoded (param : Param) : String :=
  param.name ++ "." ++ encodeCall

/-- A property whose declared type is classified as text. The helper can be
called on values of such a type only. -/
def IsText (property : Manifest.Property) : Prop :=
  property.type.bind primitiveOf? = some .string

/-- How an argument comes from its property: it is referred to by a call of the
helper when the property carries the marker, and by its name when it does not. -/
structure Follows (settings : Manifest.Settings) (argument : Argument) : Prop where
  name : argument.param.name = argument.property.name
  type : ∃ type, argument.property.type = some type ∧ argument.param.type = nonNullType type
  marked : argument.reference = encoded argument.param ↔
    argument.property.hasMarker settings.encodeMarker = true
  plain : argument.reference = argument.param.name ↔
    argument.property.hasMarker settings.encodeMarker = false

/-- The route function of a unit, whose parameters are the stored properties of
a declaration and whose path has one segment for each of them. -/
structure RoutesBy (declaration : Manifest.Declaration) (unit : GeneratedUnit) (code : UnitCode)
    (arguments : List Argument) : Prop where
  source : unit.source = declaration.id
  builtUp : BuiltUp unit code
  named : code.route.name = "route"
  stored : arguments.map (·.property) = declaration.storedProperties
  params : code.route.params = arguments.map (·.param)
  /-- Between the quotes there are the screen and the references, nothing else. -/
  path : ∃ (written screen : String), Returns code.route written ∧ ∀ names : NameClass,
    readLiteral names written = some (screen.toList.map .text ++
      arguments.flatMap fun argument => [.text '/', .code argument.reference])
  /-- Nothing but the helper can be called on a value. -/
  helper : code.object.functions.filter (·.receiver.isSome) = [encodeFunction]

/-- Every call of the helper in the path is on a parameter that is text, since
the helper takes nothing else. -/
def CallsFit (arguments : List Argument) : Prop :=
  ∀ argument ∈ arguments, argument.reference = encoded argument.param → IsText argument.property

/-- Only text is marked to be encoded. This is a condition on the manifest, and
no rule of validation asks for it. -/
def MarksText (settings : Manifest.Settings) (declaration : Manifest.Declaration) : Prop :=
  ∀ property ∈ declaration.storedProperties,
    property.hasMarker settings.encodeMarker = true → IsText property

/-- A unit of a declaration of the manifest that calls the helper on its marked
properties and on these only. -/
def EncodesMarked (manifest : Manifest) (unit : GeneratedUnit) : Prop :=
  ∃ declaration ∈ manifest.declarations, ∃ code arguments,
    RoutesBy declaration unit code arguments ∧
      (∀ argument ∈ arguments, Follows manifest.settings argument) ∧
      (CallsFit arguments ↔ MarksText manifest.settings declaration)

private theorem encoded_ne (param : Param) : encoded param ≠ param.name := by
  intro same
  have lengths := congrArg (·.toList.length) same
  simp [encoded, encodeCall] at lengths

variable {settings : Manifest.Settings} {declaration : Manifest.Declaration}
  {descriptor : Descriptor} {id : DeclarationId}

/-- The argument that a property becomes by way of its field. -/
def argument (property : Manifest.Property) (field : Field) : Argument where
  property
  param := ⟨field.name, nonNullType field.declaredType⟩
  reference := Slot.reference ⟨field.name, field.encode⟩

private theorem argument_follows {property : Manifest.Property} {field : Field}
    (made : Field.ofProperty id settings.encodeMarker property = .ok field) :
    Follows settings (argument property field) := by
  obtain ⟨type, typed, rfl⟩ := Descriptors.ofProperty_ok.mp made
  have apart := encoded_ne ⟨property.name, nonNullType type⟩
  cases mark : property.hasMarker settings.encodeMarker with
  | true =>
    have called : (argument property ⟨property.name, type, primitiveOf? type, true⟩).reference =
      encoded ⟨property.name, nonNullType type⟩ := rfl
    exact ⟨rfl, ⟨type, typed, rfl⟩, iff_of_true called mark,
      iff_of_false (called ▸ apart) (by simp [argument, mark])⟩
  | false =>
    have named : (argument property ⟨property.name, type, primitiveOf? type, false⟩).reference =
      property.name := rfl
    exact ⟨rfl, ⟨type, typed, rfl⟩, iff_of_false (named ▸ apart.symm) (by simp [argument, mark]),
      iff_of_true named mark⟩

/-- The properties of a descriptor become arguments one by one, with no field
that comes from elsewhere. -/
theorem arguments_exist {properties : List Manifest.Property} {fields : List Field}
    (each : List.Forall₂ (fun property field =>
      Field.ofProperty id settings.encodeMarker property = .ok field) properties fields) :
    ∃ arguments : List Argument, arguments.map (·.property) = properties ∧
      arguments.map (·.param) = fields.map (fun field =>
        ⟨field.name, nonNullType field.declaredType⟩) ∧
      arguments.flatMap (fun argument => [.text '/', .code argument.reference]) =
        slotParts (fields.map fun field => ⟨field.name, field.encode⟩) ∧
      ∀ argument ∈ arguments, Follows settings argument := by
  induction each with
  | nil => exact ⟨[], rfl, rfl, rfl, List.forall_mem_nil _⟩
  | @cons property field _ _ made _ ih =>
    obtain ⟨arguments, stored, params, parts, follow⟩ := ih
    refine ⟨argument property field :: arguments, ?_, ?_, ?_,
      List.forall_mem_cons.mpr ⟨argument_follows made, follow⟩⟩
    · rw [List.map_cons, stored]
      rfl
    · rw [List.map_cons, params]
      rfl
    · rw [List.flatMap_cons, parts]
      rfl

/-- Of the functions of an object only the helper is called on a value; all
others have parameters alone. -/
theorem helper_alone (container : Container) (descriptor : Descriptor) :
    (routeObject container descriptor).functions.filter (·.receiver.isSome) = [encodeFunction] := by
  have none : (descriptor.fields.filterMap (extractor? container)).filter (·.receiver.isSome) =
      [] := by
    apply List.filter_eq_nil_iff.mpr
    intro extractor member
    obtain ⟨field, -, made⟩ := List.mem_filterMap.mp member
    obtain ⟨primitive, -, rfl⟩ := Option.map_eq_some_iff.mp made
    simp
  rw [routeObject, List.filter_append, List.filter_append, none]
  rfl

private theorem emitted_routes (files : List String) (container : Container)
    (sound : SoundDeclaration declaration)
    (built : Descriptor.ofDeclaration settings declaration = .ok descriptor) :
    ∃ arguments, RoutesBy declaration
        { (emitter container).emit descriptor with dependencies := .all files }
        (unitCode container descriptor) arguments ∧
      ∀ argument ∈ arguments, Follows settings argument := by
  obtain ⟨marker, -, -, -, -, each⟩ := Descriptors.ofDeclaration_ok.mp built
  obtain ⟨arguments, stored, params, parts, follow⟩ := arguments_exist each
  have valid : ∀ slot ∈ (Template.ofDescriptor descriptor).slots,
      identifierFault? slot.name = none := by
    refine List.forall_mem_map.mpr fun field member => ?_
    have named : field.name ∈ descriptor.fields.map (·.name) := List.mem_map_of_mem member
    rw [Descriptors.fields_named built] at named
    exact UsableNames.usable_identifier (stored_usable sound _ named)
  refine ⟨arguments, ⟨PassPartition.described_source built,
    emitted_builtUp files container descriptor, rfl, stored, params.symm,
    ⟨_, descriptor.routeName, rfl, fun names => ?_⟩, helper_alone container descriptor⟩, follow⟩
  rw [parts]
  exact read_pathLiteral valid

/-- The calls fit when what asks for them does. Nothing in between mends a
marker on a property that is no text. -/
theorem calls_fit_iff {arguments : List Argument}
    (stored : arguments.map (·.property) = declaration.storedProperties)
    (follow : ∀ argument ∈ arguments, Follows settings argument) :
    CallsFit arguments ↔ MarksText settings declaration := by
  rw [MarksText, ← stored, List.forall_mem_map]
  exact forall₂_congr fun argument member => imp_congr_left (follow argument member).marked

/-- The units of a pass under the settings of the manifest. -/
theorem filed_encode_marked {manifest : Manifest} (sound : Sound manifest) {context : Context}
    (files : filed context = outcome (.ofManifest manifest) manifest.settings
      (emitter (.ofSettings manifest.settings)) manifest.settings.routeMarker)
    {unit : GeneratedUnit} (member : unit ∈ context.units) : EncodesMarked manifest unit := by
  obtain ⟨declaration, discovered, descriptor, -, built, rfl⟩ :=
    (PassPartition.unit_emitted files).mp member
  have declared : declaration ∈ manifest.declarations := List.mem_of_mem_filter discovered
  obtain ⟨arguments, routes, follow⟩ := emitted_routes manifest.sourceFiles
    (.ofSettings manifest.settings) (sound.declarations declaration declared) built
  exact ⟨declaration, declared, _, arguments, routes, follow, calls_fit_iff routes.stored follow⟩

/-- A pass in Kotlin over a manifest that was read from a text encodes what is
marked, whatever its type. On its own it always comes to its end; plugins that
leave alone what is filed and the settings, and further phases that leave alone
what is filed, change nothing. -/
theorem units_encode_marked {σ : Type} {manifest : Manifest} {source file : String}
    (accepted : Manifest.parse source file = .ok manifest) :
    (∀ lints, ∃ context,
      ({ Command.kotlinGenerator manifest [] with lints } : Generator σ).run
        (.ofManifest manifest) = pure context ∧
          ∀ unit ∈ context.units, EncodesMarked manifest unit) ∧
    ∀ generator : Generator σ, generator.emitter = emitter (.ofSettings manifest.settings) →
      (∀ plugin ∈ generator.plugins, KeepsAtHooks configured plugin) →
      (∀ phase ∈ generator.phases, LeavesFiled phase.run) →
      ∀ context state final, Succeeds (generator.run (.ofManifest manifest)) state context final →
        ∀ unit ∈ context.units, EncodesMarked manifest unit := by
  have sound := (parse_ok.mp accepted).2
  constructor
  · intro lints
    exact ⟨_, Generator.run_standard _ lints (.ofManifest manifest),
      fun unit => filed_encode_marked sound (settle_files lints _)⟩
  · intro generator kotlin keep further context state final ran unit
    exact filed_encode_marked sound (kotlin ▸ run_files_configured keep further ran)

/-- A declaration that asks for a number to be encoded, which validation lets
pass. -/
def pagedText : String :=
  "[[declaration]]\nname=\"Page\"\n" ++
  "annotations=[\x7bname=\"Destination\",args=[\"page\"]\x7d]\n" ++
  "[[declaration.properties]]\nname=\"count\"\ntype=\"Int\"\nannotations=[\"EncodeUrl\"]\n"

def countProperty : Manifest.Property where
  name := "count"
  type := some "Int"
  markers := [⟨"EncodeUrl", []⟩]

def pagedDeclaration : Manifest.Declaration where
  name := "Page"
  markers := [⟨"Destination", ["page"]⟩]
  properties := [countProperty]

def pagedManifest : Manifest where
  declarations := [pagedDeclaration]

private theorem paged_accepted : Manifest.parse pagedText "wayfinder.toml" = .ok pagedManifest :=
  parse_checked (by cbv) (by rfl)

theorem units_encode_marked_paged :
    Manifest.parse pagedText "wayfinder.toml" = .ok pagedManifest ∧
      ∃ context final,
        Succeeds ((Command.kotlinGenerator pagedManifest [UnitPaths.counting]).run
          (.ofManifest pagedManifest)) 0 context final ∧
        context.units.map (·.name) = ["PageDestination"] ∧
        ∀ unit ∈ context.units, EncodesMarked pagedManifest unit := by
  refine ⟨paged_accepted, ?_⟩
  have shown : ((ExceptT.run ((Command.kotlinGenerator pagedManifest
      [UnitPaths.counting]).run (.ofManifest pagedManifest))).run 0).1.toOption.map
        (fun context => context.units.map (·.name)) = some ["PageDestination"] := by
    decide +kernel
  obtain ⟨context, final, ran, names⟩ := succeeds_shown shown
  have keep : ∀ plugin ∈ (Command.kotlinGenerator pagedManifest [UnitPaths.counting]).plugins,
      KeepsAtHooks configured plugin := by
    intro plugin member
    have same : plugin = UnitPaths.counting := List.mem_singleton.mp member
    rw [same]
    exact UnitPaths.counting_configured
  exact ⟨context, final, ran, names, (units_encode_marked paged_accepted).2 _ rfl keep
    (List.forall_mem_nil _) context 0 final ran⟩

/-- The descriptor that is built of it, with the field marked as an encoded
one. -/
def pagedDescriptor : Descriptor where
  routeName := "page"
  fields := [⟨"count", "Int", some .int, true⟩]
  source := ⟨"", "Page"⟩

def countArgument : Argument where
  property := countProperty
  param := ⟨"count", "Int"⟩
  reference := "count.encodeUrl()"

/-- The helper is called on the number, though numbers are no text. -/
theorem paged_calls_misfit :
    Manifest.parse pagedText "wayfinder.toml" = .ok pagedManifest ∧
      ∃ context, (Command.kotlinGenerator pagedManifest [] : Generator Unit).run
          (.ofManifest pagedManifest) = pure context ∧
        ∃ unit ∈ context.units, ∃ code, RoutesBy pagedDeclaration unit code [countArgument] ∧
          primitiveOf? "Int" = some .int ∧ ¬ CallsFit [countArgument] := by
  have sound := (parse_ok.mp paged_accepted).2.declarations pagedDeclaration (.head _)
  have built : Descriptor.ofDeclaration pagedManifest.settings pagedDeclaration =
      .ok pagedDescriptor := by
    decide +kernel
  obtain ⟨arguments, routes, follow⟩ :=
    emitted_routes [] (.ofSettings pagedManifest.settings) sound built
  have lone : arguments = [countArgument] := by
    obtain ⟨⟨property, param, reference⟩, rfl, stored⟩ := List.map_eq_singleton_iff.mp routes.stored
    obtain rfl : property = countProperty := stored
    obtain rfl : ⟨"count", "Int"⟩ = param := List.singleton_inj.mp routes.params
    have marked : countProperty.hasMarker pagedManifest.settings.encodeMarker = true := by
      decide +kernel
    obtain rfl : reference = "count.encodeUrl()" := (follow _ (.head _)).marked.mpr marked
    rfl
  have found : pagedDeclaration ∈ (Host.ofManifest pagedManifest).marked "Destination" := by
    decide +kernel
  refine ⟨paged_accepted, _, Generator.run_standard _ standardLints (.ofManifest pagedManifest), _,
    ?_, _, lone ▸ routes, rfl, ?_⟩
  · exact (PassPartition.unit_emitted (settle_files _ _)).mpr
      ⟨pagedDeclaration, found, pagedDescriptor, by decide +kernel, built, rfl⟩
  · intro fit
    have text := fit countArgument (.head _) rfl
    cases text

end TypedRoutes.EncodeCalls
