import Mathlib.Data.List.Forall2
import TypedRoutes.Kotlin.Unit
import TypedRoutes.Proofs.LiteralReading
import TypedRoutes.Proofs.UsableNames

/-! The literals of a generated unit mean what the templates say. Read by the
language's rules, the route function yields the concrete path that expansion
gives for the same values, the destination function yields the route key, and
the keys of constants and extractors are the names of their fields. -/
namespace TypedRoutes.EmittedLiterals
open Kotlin Route LiteralReading UsableNames

/-- A function that does nothing but return an expression. Everything that a
literal means is then what the function answers with. -/
def Returns (function : Function) (expression : String) : Prop :=
  function.body = [.line ("return " ++ expression)]

/-- The characters of a path literal for the slots of a template, each behind a
separator and in braces. -/
def slotText (slots : List Slot) : List Char :=
  slots.flatMap fun slot => '/' :: '$' :: '{' :: slot.reference.toList ++ ['}']

/-- The parts that they stand for: a separator as text, and the expression as
code. -/
def slotParts (slots : List Slot) : List Part :=
  slots.flatMap fun slot => [.text '/', .code slot.reference]

variable {names : NameClass} {evaluate : String → Option String} {value : String → String}

private theorem reference_braceless {slot : Slot} (valid : identifierFault? slot.name = none) :
    '}' ∉ slot.reference.toList := by
  have name := identifier_excludes '}' valid rfl
  unfold Slot.reference
  split
  · have call : '}' ∉ ("." ++ encodeCall).toList := by decide
    rw [String.append_assoc, String.toList_append, List.mem_append]
    rintro (inName | inCall)
    · exact name inName
    · exact call inCall
  · exact name

private theorem read_slots {slots : List Slot}
    (valid : ∀ slot ∈ slots, identifierFault? slot.name = none) :
    readParts names (slotText slots ++ ['"']) = some (slotParts slots, []) := by
  induction slots with
  | nil =>
    rw [slotText, List.flatMap_nil, List.nil_append, readParts]
    rfl
  | cons slot rest ih =>
    have after := ih fun other member => valid other (List.mem_cons_of_mem _ member)
    have code := read_interpolation (reference_braceless (valid slot (by simp))) after
    have spelled : slotText (slot :: rest) ++ ['"'] =
        '/' :: ('$' :: '{' :: slot.reference.toList ++ '}' :: (slotText rest ++ ['"'])) := by
      simp [slotText]
    rw [spelled, read_plain (by decide) (by decide) (by decide) (by decide) (by decide), code,
      String.ofList_toList]
    rfl

/-- The path literal is complete: its screen is text and its slots are code. No
screen can open a slot or end the literal, as it is escaped. -/
theorem read_pathLiteral {template : Template}
    (valid : ∀ slot ∈ template.slots, identifierFault? slot.name = none) :
    readLiteral names (pathLiteral template) =
      some (template.screen.toList.map .text ++ slotParts template.slots) := by
  have slots : readParts names (slotText template.slots ++ ['"']) =
    some (slotParts template.slots, []) := read_slots valid
  have read := read_escaped template.screen.toList slots
  have spelled : (pathLiteral template).toList =
      '"' :: (template.screen.toList.flatMap escapeChar ++
        (slotText template.slots ++ ['"'])) := by
    simp [pathLiteral, slotText, escape, String.toList_join, List.flatMap_map]
  simp only [readLiteral, spelled, read]

private theorem value_slots {slots : List Slot}
    (plain : ∀ slot ∈ slots, evaluate slot.name = some (value slot.name))
    (encoded : ∀ slot ∈ slots,
      evaluate (slot.name ++ "." ++ encodeCall) = some (Text.FormUrl.encode (value slot.name))) :
    ∃ path, Template.expandSlots (fun name => some (value name)) slots = .ok path ∧
      value? evaluate (slotParts slots) = some path := by
  induction slots with
  | nil => exact ⟨"", rfl, rfl⟩
  | cons slot rest ih =>
    obtain ⟨path, expanded, valued⟩ := ih
      (fun other member => plain other (List.mem_cons_of_mem _ member))
      (fun other member => encoded other (List.mem_cons_of_mem _ member))
    have here : evaluate slot.reference = some (Template.segment slot (value slot.name)) := by
      unfold Slot.reference Template.segment
      split
      · exact encoded slot (by simp)
      · exact plain slot (by simp)
    refine ⟨"/" ++ Template.segment slot (value slot.name) ++ path, ?_, ?_⟩
    · simp only [Template.expandSlots, expanded]
      rfl
    · have tail : value? evaluate (.code slot.reference :: slotParts rest) =
        some (Template.segment slot (value slot.name) ++ path) := value_cons here valued
      rw [String.append_assoc]
      exact value_cons rfl tail

/-- The constant of a field holds its name under the uppercase name, whatever
characters the name has. -/
def HoldsKey (names : NameClass) (constant : Property) (field : Field) : Prop :=
  constant.name = Text.upper field.name ∧ Denotes names constant.initializer field.name

/-- The extractor of a field reads the container under the name of the field,
which it gives as a literal. -/
def ReadsKey (names : NameClass) (container : Container) (extractor : Function)
    (field : Field) : Prop :=
  ∃ primitive key, field.kind = some primitive ∧ Denotes names key field.name ∧
    Returns extractor (container.param ++ "." ++ readCall primitive ++ "(" ++ key ++ ")")

/-- Field by field the constants hold the names. -/
theorem constants_hold_keys (fields : List Field) :
    List.Forall₂ (HoldsKey names) (fields.map keyConstant) fields := by
  rw [List.forall₂_map_left_iff, List.forall₂_same]
  intro field member
  exact ⟨rfl, literal_denotes field.name⟩

/-- Field by field the extractors read under the names; a field that has none is
passed over. -/
theorem extractors_read_keys (container : Container) (fields : List Field) :
    List.Forall₂ (ReadsKey names container) (fields.filterMap (extractor? container))
      (fields.filter (·.kind.isSome)) := by
  induction fields with
  | nil => exact .nil
  | cons field rest ih =>
    cases kind : field.kind with
    | none => simpa [extractor?, kind] using ih
    | some primitive =>
      have reads : ReadsKey names container
          { name := field.name
            params := [⟨container.param, Text.shortName container.type⟩]
            returns := some (nullable primitive.name)
            body := [.line ("return " ++ container.param ++ "." ++ readCall primitive ++ "(" ++
              literal field.name ++ ")")] } field :=
        ⟨primitive, literal field.name, kind, literal_denotes field.name, by
          simp [Returns, String.append_assoc]⟩
      simpa [extractor?, kind] using List.Forall₂.cons reads ih

/-- The literals of the object generated for a descriptor mean what its
templates say: the destination is the route key, the route is the concrete path
of the given values, and constants and extractors hold the names of the fields.
The object is all that the emitted text holds below its package and imports, so
these are the literals of the unit and not of some tree beside it. -/
def MeansTemplates (names : NameClass) (container : Container) (descriptor : Descriptor)
    (value : String → String) (evaluate : String → Option String) : Prop :=
  ∃ (object : Object) (destination route : Function) (extractors : List Function),
    ((emitter container).emit descriptor).content =
      (routeFile container descriptor).renderBelow generatedHeader ∧
    (routeFile container descriptor).body = [[object.fragment]] ∧
    object.functions = destination :: route :: (extractors ++ [encodeFunction]) ∧
    (destination.name = "destination" ∧
      ∃ key, Returns destination key ∧ Denotes names key descriptor.key) ∧
    (route.name = "route" ∧ ∃ written parts path, Returns route written ∧
      readLiteral names written = some parts ∧ value? evaluate parts = some path ∧
      (Template.ofDescriptor descriptor).expand (fun name => some (value name)) = .ok path) ∧
    List.Forall₂ (HoldsKey names) object.properties descriptor.fields ∧
    List.Forall₂ (ReadsKey names container) extractors descriptor.extractable

/-- For every route name, every list of fields named by identifiers and every
assignment of values to them, provided that a field evaluates to its value and
the call of the helper on it to the encoded value. -/
theorem emitted_literals_mean_templates (names : NameClass) (container : Container)
    (descriptor : Descriptor) (value : String → String) (evaluate : String → Option String)
    (valid : ∀ field ∈ descriptor.fields, identifierFault? field.name = none)
    (plain : ∀ field ∈ descriptor.fields, evaluate field.name = some (value field.name))
    (encoded : ∀ field ∈ descriptor.fields,
      evaluate (field.name ++ "." ++ encodeCall) = some (Text.FormUrl.encode (value field.name))) :
    MeansTemplates names container descriptor value evaluate := by
  have slotsValid : ∀ slot ∈ (Template.ofDescriptor descriptor).slots,
    identifierFault? slot.name = none := List.forall_mem_map.mpr valid
  have slotsPlain : ∀ slot ∈ (Template.ofDescriptor descriptor).slots,
    evaluate slot.name = some (value slot.name) := List.forall_mem_map.mpr plain
  have slotsEncoded : ∀ slot ∈ (Template.ofDescriptor descriptor).slots,
      evaluate (slot.name ++ "." ++ encodeCall) = some (Text.FormUrl.encode (value slot.name)) :=
    List.forall_mem_map.mpr encoded
  obtain ⟨segments, expanded, valued⟩ := value_slots slotsPlain slotsEncoded
  refine ⟨routeObject container descriptor, destinationFunction (.ofDescriptor descriptor),
    routeFunction descriptor, descriptor.fields.filterMap (extractor? container),
    rfl, routeFile_body container descriptor, rfl,
    ⟨rfl, _, rfl, literal_denotes descriptor.key⟩, ⟨rfl, ?_⟩,
    constants_hold_keys descriptor.fields, extractors_read_keys container descriptor.fields⟩
  refine ⟨_, _, _, rfl, read_pathLiteral slotsValid, value_text valued, ?_⟩
  simp only [Template.expand, expanded, String.ofList_toList]
  rfl

/-- A route name of nothing but marks, with an encoded and an unsupported
field. -/
def marksDescriptor : Descriptor where
  routeName := "$\x7bname\x7d\"\\\n/$"
  fields := [⟨"name", "String?", some .string, true⟩, ⟨"tags", "List<String>", none, false⟩]
  source := ⟨"com.app", "Marks"⟩

/-- What the expressions over its fields evaluate to, the calls of the helper
included. -/
def marksValues : List (String × String) := [
  ("name", "a b/$"), ("name.encodeUrl()", "a+b%2F%24"),
  ("tags", "[]"), ("tags.encodeUrl()", "%5B%5D")]

theorem emitted_literals_mean_templates_marks :
    MeansTemplates ⟨(·.isAlpha), (·.isAlphanum)⟩ ⟨"android.os.Bundle", "bundle"⟩ marksDescriptor
      (fun name => if name = "name" then "a b/$" else "[]")
      (fun expression => marksValues.lookup expression) :=
  emitted_literals_mean_templates _ _ _ _ _ (by decide) (by decide) (by decide +kernel)

end TypedRoutes.EmittedLiterals
