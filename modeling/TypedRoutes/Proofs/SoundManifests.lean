import TypedRoutes.Manifest.Decode

/-! What validation establishes. A manifest passes exactly when its marker
shows, its names are usable, and no name is given twice; the place that a check
runs at shapes its error and nothing else. -/
namespace TypedRoutes.SoundManifests
open Manifest Kotlin

/-- A package whose segments are all usable. The default package has none. -/
def UsablePackage (package : String) : Prop :=
  package = "" ∨ ∀ segment ∈ Text.segments package, isUsable segment = true

/-- Properties with usable names, no two alike. Properties that are not stored
count as well. -/
structure SoundProperties (properties : List Manifest.Property) : Prop where
  usable : ∀ property ∈ properties, isUsable property.name = true
  distinct : (properties.map (·.name)).Nodup

/-- A declaration whose own parts can be used in generated code. -/
structure SoundDeclaration (declaration : Declaration) : Prop where
  name : isUsable declaration.name = true
  package : UsablePackage declaration.package
  properties : SoundProperties declaration.properties

/-- A manifest that can be generated from: all that validation looks at, without
the order in which it does. -/
structure Sound (manifest : Manifest) : Prop where
  marker : Text.isBlank manifest.settings.routeMarker = false
  containerParam : isUsable manifest.settings.containerParam = true
  declarations : ∀ declaration ∈ manifest.declarations, SoundDeclaration declaration
  distinct : (manifest.declarations.map (·.qualifiedName)).Nodup

/-- One result after another is there when both are. -/
theorem except_bind_ok {ε α β : Type} {action : Except ε α} {next : α → Except ε β} {value : β} :
    (action >>= next) = .ok value ↔ ∃ middle, action = .ok middle ∧ next middle = .ok value := by
  cases action with
  | error error => simp [bind, Except.bind]
  | ok middle => simp [bind, Except.bind]

/-- One check after another passes when both do. -/
theorem checks_ok {ε : Type} {first second : Except ε Unit} :
    (first >>= fun _ => second) = .ok () ↔ first = .ok () ∧ second = .ok () := by
  rw [except_bind_ok]
  constructor
  · rintro ⟨⟨⟩, done, rest⟩
    exact ⟨done, rest⟩
  · rintro ⟨done, rest⟩
    exact ⟨(), done, rest⟩

private theorem refuse_if_ok {ε : Type} {condition : Prop} [Decidable condition] {error : ε}
    {rest : Except ε Unit} :
    (if condition then (throw error >>= fun _ : Unit => rest) else rest) = .ok () ↔
      ¬ condition ∧ rest = .ok () := by
  by_cases holds : condition
  · simp [holds, throw, throwThe, MonadExceptOf.throw, bind, Except.bind]
  · simp [holds]

variable {scope : Scope}

/-- A name passes its check just when it is usable, whatever kind of name it
is. -/
theorem checkName_ok {name kind : String} :
    scope.checkName name kind = .ok () ↔ isUsable name = true := by
  unfold Scope.checkName isUsable
  by_cases keyword : isKeyword name = true
  · simp [keyword]
  · cases fault : identifierFault? name with
    | none => simp [keyword]
    | some fault => simp [keyword]

private theorem checkPackage_ok {package : String} :
    scope.checkPackage package = .ok () ↔ UsablePackage package := by
  unfold Scope.checkPackage UsablePackage
  by_cases default : package = ""
  · simp [default]
  · simp only [default, ↓reduceIte, false_or]
    induction Text.segments package with
    | nil => simp [List.forM, pure, Except.pure]
    | cons segment rest ih =>
      rw [List.forM, checks_ok, ih, checkName_ok, List.forall_mem_cons]

private theorem soundProperties_cons {property : Manifest.Property}
    {rest : List Manifest.Property} :
    SoundProperties (property :: rest) ↔
      isUsable property.name = true ∧ (∀ other ∈ rest, other.name ≠ property.name) ∧
        SoundProperties rest := by
  constructor
  · rintro ⟨usable, distinct⟩
    obtain ⟨fresh, distinct⟩ := List.nodup_cons.mp distinct
    refine ⟨usable property (by simp), ?_, fun other member => usable other (by simp [member]),
      distinct⟩
    intro other member same
    exact fresh (List.mem_map.mpr ⟨other, member, same⟩)
  · rintro ⟨first, fresh, usable, distinct⟩
    refine ⟨List.forall_mem_cons.mpr ⟨first, usable⟩, List.nodup_cons.mpr ⟨?_, distinct⟩⟩
    intro repeated
    obtain ⟨other, member, same⟩ := List.mem_map.mp repeated
    exact fresh other member same

/-- The names seen so far are those that no later property may repeat. -/
theorem checkProperties_ok {seen : List String} {properties : List Manifest.Property} :
    scope.checkProperties seen properties = .ok () ↔
      SoundProperties properties ∧ ∀ property ∈ properties, property.name ∉ seen := by
  induction properties generalizing seen with
  | nil => simpa [Scope.checkProperties] using (⟨by simp, .nil⟩ : SoundProperties [])
  | cons property rest ih =>
    simp only [Scope.checkProperties]
    rw [checks_ok, refuse_if_ok, checkName_ok, ih, soundProperties_cons, List.forall_mem_cons]
    simp only [List.contains_eq_mem, decide_eq_true_eq, List.mem_append, List.mem_singleton,
      not_or]
    constructor
    · rintro ⟨usable, fresh, sound, unseen⟩
      exact ⟨⟨usable, fun other member => (unseen other member).2, sound⟩, fresh,
        fun other member => (unseen other member).1⟩
    · rintro ⟨⟨usable, apart, sound⟩, fresh, unseen⟩
      exact ⟨usable, fresh, sound, fun other member => ⟨unseen other member, apart other member⟩⟩

/-- Declarations are sound on their own, and no qualified name comes up
twice. -/
theorem checkDeclarations_ok {seen : List String} {declarations : List Declaration} :
    scope.checkDeclarations seen declarations = .ok () ↔
      (∀ declaration ∈ declarations, SoundDeclaration declaration) ∧
        (declarations.map (·.qualifiedName)).Nodup ∧
        ∀ declaration ∈ declarations, declaration.qualifiedName ∉ seen := by
  induction declarations generalizing seen with
  | nil => simp [Scope.checkDeclarations]
  | cons declaration rest ih =>
    simp only [Scope.checkDeclarations]
    rw [checks_ok, refuse_if_ok, checks_ok, checks_ok, checkName_ok, checkPackage_ok,
      checkProperties_ok, ih, List.forall_mem_cons, List.forall_mem_cons, List.map_cons,
      List.nodup_cons]
    simp only [List.contains_eq_mem, decide_eq_true_eq, List.mem_append, List.mem_singleton,
      not_or, List.not_mem_nil, not_false_eq_true, implies_true, and_true, List.mem_map,
      not_exists, not_and]
    constructor
    · rintro ⟨name, fresh, package, properties, sound, distinct, unseen⟩
      exact ⟨⟨⟨name, package, properties⟩, sound⟩,
        ⟨fun other member => (unseen other member).2, distinct⟩, fresh,
        fun other member => (unseen other member).1⟩
    · rintro ⟨⟨⟨name, package, properties⟩, sound⟩, ⟨apart, distinct⟩, fresh, unseen⟩
      exact ⟨name, fresh, package, properties, sound, distinct,
        fun other member => ⟨unseen other member, apart other member⟩⟩

/-- Validation passes exactly the sound manifests, whatever they were read
from. -/
theorem validate_ok {manifest : Manifest} {source file : String} :
    validate manifest source file = .ok () ↔ Sound manifest := by
  simp only [validate]
  rw [refuse_if_ok, checks_ok, checkName_ok, checkDeclarations_ok]
  constructor
  · rintro ⟨marker, param, sound, distinct, -⟩
    exact ⟨by simpa using marker, param, sound, distinct⟩
  · rintro ⟨marker, param, sound, distinct⟩
    exact ⟨by simpa using marker, param, sound, distinct, by simp⟩

/-- A text gives the manifest that it holds, if that one is sound. All that is
known of a manifest that was read comes from here. -/
theorem parse_ok {manifest : Manifest} {source file : String} :
    Manifest.parse source file = .ok manifest ↔
      decode? source = some manifest ∧ Sound manifest := by
  unfold Manifest.parse
  cases decoded : decode? source with
  | none => simp
  | some held =>
    simp only [Option.some.injEq]
    rw [except_bind_ok]
    constructor
    · rintro ⟨⟨⟩, valid, same⟩
      cases same
      exact ⟨rfl, validate_ok.mp valid⟩
    · rintro ⟨rfl, sound⟩
      exact ⟨(), validate_ok.mpr sound, rfl⟩

/-- What a text holds is accepted when it passes. -/
theorem parse_checked {manifest : Manifest} {source file : String}
    (decoded : decode? source = some manifest) (valid : validate manifest source file = .ok ()) :
    Manifest.parse source file = .ok manifest :=
  parse_ok.mpr ⟨decoded, validate_ok.mp valid⟩

end TypedRoutes.SoundManifests
