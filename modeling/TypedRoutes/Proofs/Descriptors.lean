import Mathlib.Data.List.Forall2
import TypedRoutes.Proofs.SoundManifests
import TypedRoutes.Route.Build

/-! What a descriptor says about its declaration: the route name is the first
argument of the marker, and the fields are the stored properties one by one. -/
namespace TypedRoutes.Descriptors
open Route SoundManifests

private theorem mapM_ok {ε α β : Type} {action : α → Except ε β} {inputs : List α}
    {outputs : List β} :
    inputs.mapM action = .ok outputs ↔
      List.Forall₂ (fun input output => action input = .ok output) inputs outputs := by
  induction inputs generalizing outputs with
  | nil =>
    rw [List.forall₂_nil_left_iff]
    exact ⟨fun ran => by cases ran; rfl, fun none => none ▸ rfl⟩
  | cons input rest ih =>
    rw [List.mapM_cons, except_bind_ok, List.forall₂_cons_left_iff]
    constructor
    · rintro ⟨first, done, ran⟩
      obtain ⟨others, later, ran⟩ := except_bind_ok.mp ran
      cases ran
      exact ⟨first, others, done, ih.mp later, rfl⟩
    · rintro ⟨first, others, done, later, rfl⟩
      exact ⟨first, done, except_bind_ok.mpr ⟨others, ih.mpr later, rfl⟩⟩

/-- A property becomes a field just when it has a type, and the field keeps the
type as it was written. -/
theorem ofProperty_ok {id : DeclarationId} {encodeMarker : String} {property : Manifest.Property}
    {field : Field} :
    Field.ofProperty id encodeMarker property = .ok field ↔ ∃ type, property.type = some type ∧
      field = {
        name := property.name
        declaredType := type
        kind := primitiveOf? type
        encode := property.hasMarker encodeMarker } := by
  unfold Field.ofProperty
  cases property.type with
  | none => simp
  | some type => simp [eq_comm]

variable {settings : Manifest.Settings} {declaration : Manifest.Declaration}
  {descriptor : Descriptor}

/-- A declaration has a descriptor just when its marker has an argument that
shows and all its stored properties have types. -/
theorem ofDeclaration_ok :
    Descriptor.ofDeclaration settings declaration = .ok descriptor ↔
      ∃ marker, declaration.marker? settings.routeMarker = some marker ∧
        marker.args.head? = some descriptor.routeName ∧
        Text.isBlank descriptor.routeName = false ∧
        descriptor.source = declaration.id ∧
        List.Forall₂ (fun property field =>
            Field.ofProperty declaration.id settings.encodeMarker property = .ok field)
          declaration.storedProperties descriptor.fields := by
  unfold Descriptor.ofDeclaration
  cases marked : declaration.marker? settings.routeMarker with
  | none => simp
  | some marker =>
    cases named : marker.args.head? with
    | none => simp [named]
    | some routeName =>
      simp only [Option.some.injEq, exists_eq_left', named]
      split
      · rename_i blank
        constructor
        · intro built
          cases built
        · rintro ⟨rfl, shown, -⟩
          cases blank.symm.trans shown
      · rename_i shown
        rw [except_bind_ok]
        constructor
        · rintro ⟨fields, mapped, built⟩
          cases built
          exact ⟨rfl, by simpa using shown, rfl, mapM_ok.mp mapped⟩
        · rintro ⟨rfl, -, source, each⟩
          exact ⟨_, mapM_ok.mpr each, by rw [← source]; rfl⟩

/-- Only a declaration with the route marker has a descriptor, so nothing else
can get a unit. -/
theorem described_marked
    (built : Descriptor.ofDeclaration settings declaration = .ok descriptor) :
    (declaration.marker? settings.routeMarker).isSome := by
  obtain ⟨marker, marked, -⟩ := ofDeclaration_ok.mp built
  rw [marked]
  rfl

/-- The fields of a descriptor are named like the stored properties, in the same
order. -/
theorem fields_named (built : Descriptor.ofDeclaration settings declaration = .ok descriptor) :
    descriptor.fields.map (·.name) = declaration.storedProperties.map (·.name) := by
  obtain ⟨-, -, -, -, -, each⟩ := ofDeclaration_ok.mp built
  generalize declaration.storedProperties = properties, descriptor.fields = fields at each
  induction each with
  | nil => rfl
  | cons made _ ih =>
    obtain ⟨type, -, rfl⟩ := ofProperty_ok.mp made
    rw [List.map_cons, List.map_cons, ih]

end TypedRoutes.Descriptors
