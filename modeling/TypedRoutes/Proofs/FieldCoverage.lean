import Mathlib.Data.List.Forall2
import TypedRoutes.Pipeline.Lint
import TypedRoutes.Proofs.Descriptors
import TypedRoutes.Proofs.EmittedLiterals

/-! Every field is covered wherever fields are listed. Constants, parameters,
both templates, extractors and the note on what has no extractor are made
apart from each other; each of them lists the stored properties of the
declaration in their order, or the part of them that it is for. -/
namespace TypedRoutes.FieldCoverage
open Pipeline Kotlin Route EmittedLiterals

/-- Whether a property is declared with a type that can be read back. Extractors
are for these properties, and notes for the others. -/
def supported (property : Manifest.Property) : Bool :=
  (property.type.bind primitiveOf?).isSome

/-- The expression for a property in a path of generated code: its name, or the
call of the helper on it. -/
def reference (settings : Manifest.Settings) (property : Manifest.Property) : String :=
  if property.hasMarker settings.encodeMarker then property.name ++ ".encodeUrl()"
  else property.name

/-- The constant of a property, which holds the name as it was declared under
the uppercase name. -/
def ConstantFor (constant : Kotlin.Property) (property : Manifest.Property) : Prop :=
  constant = ⟨Text.upper property.name, "String", literal property.name⟩

/-- The parameter of a property, of its type without the nullable mark. -/
def ParamFor (param : Param) (property : Manifest.Property) : Prop :=
  ∃ type, property.type = some type ∧ param = ⟨property.name, nonNullType type⟩

/-- The extractor of a property. What it returns and which method it calls are
both named by the simple name of the declared type. -/
structure ExtractorFor (container : Container) (extractor : Function)
    (property : Manifest.Property) : Prop where
  name : extractor.name = property.name
  params : extractor.params = [⟨container.param, Text.shortName container.type⟩]
  typed : ∃ type, property.type = some type ∧
    extractor.returns = some (simpleTypeName type ++ "?") ∧
    Returns extractor (container.param ++ "." ++ ("get" ++ simpleTypeName type) ++ "(" ++
      literal property.name ++ ")")

/-- The note on a property, located at the field that it has become. It quotes
the type as it was declared. -/
structure NoteOn (id : DeclarationId) (note : Diagnostic) (property : Manifest.Property) :
    Prop where
  severity : note.severity = .info
  phase : note.phase = lintPhase
  location : note.location = some (id.qualified ++ "." ++ property.name)
  message : ∃ type, property.type = some type ∧ note.message = "field '" ++ property.name ++
    "' has unsupported type '" ++ type ++ "', no extractor is generated"

/-- All places that list the fields of a descriptor, held against the stored
properties of the declaration that it was built from. -/
structure CoversStored (settings : Manifest.Settings) (container : Container)
    (declaration : Manifest.Declaration) (descriptor : Descriptor) (destination route : Function)
    (extractors : List Function) : Prop where
  functions : (routeObject container descriptor).functions =
    destination :: route :: (extractors ++ [encodeFunction])
  named : destination.name = "destination" ∧ route.name = "route" ∧
    encodeFunction.name = "encodeUrl"
  constants : List.Forall₂ ConstantFor (routeObject container descriptor).properties
    declaration.storedProperties
  params : List.Forall₂ ParamFor route.params declaration.storedProperties
  key : descriptor.key = descriptor.routeName ++ String.join
    (declaration.storedProperties.map fun property => "/\x7b" ++ property.name ++ "\x7d")
  path : descriptor.path = descriptor.routeName ++ String.join
    (declaration.storedProperties.map fun property =>
      "/$\x7b" ++ reference settings property ++ "\x7d")
  /-- The functions return these two as literals. -/
  returned : Returns destination (literal descriptor.key) ∧
    Returns route ("\"" ++ escape descriptor.routeName ++ String.join
      (declaration.storedProperties.map fun property =>
        "/$\x7b" ++ reference settings property ++ "\x7d") ++ "\"")
  extractors : List.Forall₂ (ExtractorFor container) extractors
    (declaration.storedProperties.filter supported)
  /-- All that is noted of the descriptor are the other properties. -/
  notes : List.Forall₂ (NoteOn declaration.id) (unsupportedFieldType.check [descriptor])
    (declaration.storedProperties.filter (!supported ·))
  /-- Among others it is noted as it is alone, at its place and with nothing in
  between. -/
  noted : ∀ before after, unsupportedFieldType.check (before ++ descriptor :: after) =
    unsupportedFieldType.check before ++ unsupportedFieldType.check [descriptor] ++
      unsupportedFieldType.check after

/-! ## From properties to fields -/

/-- A property and the field that it becomes. All lists are made of fields, so
this is how they are held against properties. -/
def Becomes (settings : Manifest.Settings) (property : Manifest.Property) (field : Field) : Prop :=
  ∃ type, property.type = some type ∧ field = {
    name := property.name
    declaredType := type
    kind := primitiveOf? type
    encode := property.hasMarker settings.encodeMarker }

variable {settings : Manifest.Settings} {declaration : Manifest.Declaration}
  {descriptor : Descriptor} {properties : List Manifest.Property} {fields : List Field}
  {container : Container}

/-- Each stored property becomes the field at its place, and there are no other
fields. -/
theorem fields_become (built : Descriptor.ofDeclaration settings declaration = .ok descriptor) :
    List.Forall₂ (Becomes settings) declaration.storedProperties descriptor.fields := by
  obtain ⟨-, -, -, -, -, each⟩ := Descriptors.ofDeclaration_ok.mp built
  exact each.imp fun property field made => Descriptors.ofProperty_ok.mp made

/-- What is listed of every field is listed of every property, when the two look
the same in the list. -/
theorem listed_eq {β : Type} {view : Field → β} {own : Manifest.Property → β}
    (each : List.Forall₂ (Becomes settings) properties fields)
    (same : ∀ property field, Becomes settings property field → view field = own property) :
    fields.map view = properties.map own := by
  induction each with
  | nil => rfl
  | cons becomes _ ih => rw [List.map_cons, List.map_cons, same _ _ becomes, ih]

/-- What is made of every field is made for every property. -/
theorem made_for {β : Type} {make : Field → β} {For : β → Manifest.Property → Prop}
    (each : List.Forall₂ (Becomes settings) properties fields)
    (fits : ∀ property field, Becomes settings property field → For (make field) property) :
    List.Forall₂ For (fields.map make) properties := by
  rw [List.forall₂_map_left_iff]
  exact (each.imp fits).flip

/-- A field has a primitive type just when its property can be read back. -/
theorem Becomes.supported_iff {property : Manifest.Property} {field : Field}
    (becomes : Becomes settings property field) : field.kind.isSome = supported property := by
  obtain ⟨type, typed, rfl⟩ := becomes
  rw [supported, typed, Option.bind_some]

private theorem Becomes.reference_eq {property : Manifest.Property} {field : Field}
    (becomes : Becomes settings property field) :
    Slot.reference ⟨field.name, field.encode⟩ = reference settings property := by
  obtain ⟨type, typed, rfl⟩ := becomes
  have call : property.name ++ "." ++ encodeCall = property.name ++ ".encodeUrl()" :=
    String.append_assoc ..
  simp only [Slot.reference, reference, call]

private theorem nullable_primitive (primitive : Primitive) :
    nullable primitive.name = primitive.name ++ "?" := by
  cases primitive <;> decide

private theorem extractor_for {property : Manifest.Property} {field : Field} {extractor : Function}
    (becomes : Becomes settings property field)
    (made : extractor? container field = some extractor) :
    ExtractorFor container extractor property := by
  obtain ⟨type, typed, same⟩ := becomes
  obtain ⟨primitive, kind, rfl⟩ := Option.map_eq_some_iff.mp made
  have found : primitiveOf? type = some primitive := by rw [← kind, same]
  have name : field.name = property.name := by rw [same]
  have named := (primitiveOf?_iff.mp found).symm
  refine ⟨name, rfl, type, typed, ?_, ?_⟩
  · rw [nullable_primitive, named]
  · simp only [Returns, readCall, named, name, String.append_assoc]

/-- The fields without a primitive type are passed over, and the extractors of
the others keep the order. -/
theorem extractors_for (each : List.Forall₂ (Becomes settings) properties fields) :
    List.Forall₂ (ExtractorFor container) (fields.filterMap (extractor? container))
      (properties.filter supported) := by
  induction each with
  | nil => exact .nil
  | @cons property field _ _ becomes _ ih =>
    have same := becomes.supported_iff
    cases made : extractor? container field with
    | none =>
      have kind : field.kind.isSome = false := by
        simpa [extractor?] using made
      rw [List.filterMap_cons_none made, List.filter_cons_of_neg (by simp [← same, kind])]
      exact ih
    | some extractor =>
      have kind : field.kind.isSome = true := by
        obtain ⟨primitive, found, -⟩ := Option.map_eq_some_iff.mp made
        rw [found]
        rfl
      rw [List.filterMap_cons_some made, List.filter_cons_of_pos (by simp [← same, kind])]
      exact .cons (extractor_for becomes made) ih

private theorem notes_on (id : DeclarationId)
    (each : List.Forall₂ (Becomes settings) properties fields) :
    List.Forall₂ (NoteOn id) ((fields.filter (·.kind.isNone)).map (unsupportedField id))
      (properties.filter (!supported ·)) := by
  have others : List.Forall₂ (Becomes settings) (properties.filter (!supported ·))
      (fields.filter (·.kind.isNone)) := by
    refine List.rel_filter ?_ each
    intro property field becomes
    simp only [← becomes.supported_iff, Option.not_isSome]
  refine made_for others ?_
  rintro property field ⟨type, typed, rfl⟩
  exact ⟨rfl, rfl, rfl, type, typed, rfl⟩

/-- Of one descriptor the fields without a primitive type are noted, and nothing
else is said. -/
theorem check_single (descriptor : Descriptor) : unsupportedFieldType.check [descriptor] =
    (descriptor.fields.filter (·.kind.isNone)).map (unsupportedField descriptor.source) :=
  List.flatMap_singleton ..

/-- Of every declaration with a descriptor all stored properties are covered,
whatever they are called and wherever extractors read from. -/
theorem stored_covered (container : Container)
    (built : Descriptor.ofDeclaration settings declaration = .ok descriptor) :
    ∃ destination route extractors,
      CoversStored settings container declaration descriptor destination route extractors := by
  have each := fields_become built
  have source : descriptor.source = declaration.id := by
    obtain ⟨-, -, -, -, source, -⟩ := Descriptors.ofDeclaration_ok.mp built
    exact source
  have key : descriptor.fields.map (fun field => "/\x7b" ++ field.name ++ "\x7d") =
      declaration.storedProperties.map fun property => "/\x7b" ++ property.name ++ "\x7d" := by
    refine listed_eq each ?_
    rintro property field ⟨type, typed, rfl⟩
    rfl
  have path : descriptor.fields.map (fun field =>
      "/$\x7b" ++ Slot.reference ⟨field.name, field.encode⟩ ++ "\x7d") =
      declaration.storedProperties.map fun property =>
        "/$\x7b" ++ reference settings property ++ "\x7d" := by
    refine listed_eq each fun property field becomes => ?_
    rw [becomes.reference_eq]
  refine ⟨destinationFunction (.ofDescriptor descriptor), routeFunction descriptor,
    descriptor.fields.filterMap (extractor? container), ?_⟩
  constructor
  case functions => rfl
  case named => exact ⟨rfl, rfl, rfl⟩
  case constants =>
    refine made_for each ?_
    rintro property field ⟨type, typed, rfl⟩
    rfl
  case params =>
    refine made_for each ?_
    rintro property field ⟨type, typed, rfl⟩
    exact ⟨type, typed, rfl⟩
  case key =>
    rw [← key, Descriptor.key, Template.key, Template.assemble, Template.ofDescriptor, List.map_map]
    rfl
  case path =>
    rw [← path, Descriptor.path, Template.path, Template.assemble, Template.ofDescriptor,
      List.map_map]
    rfl
  case returned =>
    rw [← path, Returns, Returns, routeFunction, pathLiteral, Template.ofDescriptor, List.map_map]
    exact ⟨rfl, rfl⟩
  case extractors => exact extractors_for each
  case notes =>
    rw [check_single, source]
    exact notes_on declaration.id each
  case noted =>
    intro before after
    simp only [unsupportedFieldType, List.flatMap_append, List.flatMap_cons, List.flatMap_nil,
      List.append_nil, List.append_assoc]

/-- A declaration of which two properties are not stored, and of those that are
one has no extractor. -/
def searchDeclaration : Manifest.Declaration where
  name := "Search"
  package := "com.app"
  markers := [⟨"Destination", ["search"]⟩]
  properties := [
    { name := "base", type := some "Int", inherited := true },
    { name := "query", type := some "kotlin.String?", markers := [⟨"EncodeUrl", []⟩] },
    { name := "tags", type := some "List<String>" },
    { name := "label", type := some "String", extension := some "Search" },
    { name := "page", type := some "Int" }]

def searchDescriptor : Descriptor where
  routeName := "search"
  fields := [
    ⟨"query", "kotlin.String?", some .string, true⟩,
    ⟨"tags", "List<String>", none, false⟩,
    ⟨"page", "Int", some .int, false⟩]
  source := ⟨"com.app", "Search"⟩

theorem stored_covered_search :
    Descriptor.ofDeclaration {} searchDeclaration = .ok searchDescriptor ∧
      searchDeclaration.storedProperties.map (·.name) = ["query", "tags", "page"] ∧
      unsupportedFieldType.check [searchDescriptor] = [{
        severity := .info
        phase := "validate"
        message := "field 'tags' has unsupported type 'List<String>', no extractor is generated"
        location := some "com.app.Search.tags" }] ∧
      ∃ destination route extractors, extractors.length = 2 ∧
        CoversStored {} ⟨"android.os.Bundle", "bundle"⟩ searchDeclaration searchDescriptor
          destination route extractors := by
  have built : Descriptor.ofDeclaration {} searchDeclaration = .ok searchDescriptor := by
    decide +kernel
  have two : (searchDeclaration.storedProperties.filter supported).length = 2 := by
    decide +kernel
  obtain ⟨destination, route, extractors, covers⟩ :=
    stored_covered ⟨"android.os.Bundle", "bundle"⟩ built
  exact ⟨built, by decide +kernel, by decide +kernel, destination, route, extractors,
    covers.extractors.length_eq.trans two, covers⟩

end TypedRoutes.FieldCoverage
