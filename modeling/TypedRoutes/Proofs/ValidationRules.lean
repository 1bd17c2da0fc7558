import TypedRoutes.Proofs.SoundManifests
import TypedRoutes.Proofs.UsableNames

/-! The rules of a manifest, stated apart from the loops that check them. Every
rule knows what it is about, and the rules of a manifest stand in document
order. Validation passes exactly the documented manifests, and of any other it
reports the first broken rule, although it compares qualified names where the
rule is about packages and names. -/
namespace TypedRoutes.ValidationRules
open Manifest Kotlin SoundManifests UsableNames

/-! ## Documented manifests -/

/-- What a manifest must be according to its documentation. It says nothing
about checks or about their order. -/
structure Documented (manifest : Manifest) : Prop where
  marker : ∃ c ∈ manifest.settings.routeMarker.toList, Text.isSpace c = false
  containerParam : Usable manifest.settings.containerParam
  names : ∀ declaration ∈ manifest.declarations, Usable declaration.name
  distinct : manifest.declarations.Pairwise fun first second =>
    ¬ (first.package = second.package ∧ first.name = second.name)
  packages : ∀ declaration ∈ manifest.declarations, declaration.package ≠ "" →
    ∀ segment ∈ Text.segments declaration.package, Usable segment
  propertyNames : ∀ declaration ∈ manifest.declarations, ∀ property ∈ declaration.properties,
    Usable property.name
  /-- Inherited and extension properties count as well. -/
  distinctProperties : ∀ declaration ∈ manifest.declarations,
    declaration.properties.Pairwise fun first second => first.name ≠ second.name

/-- The last part of a qualified name is the name itself. -/
theorem shortName_qualified {id : Route.DeclarationId} (undotted : '.' ∉ id.name.toList) :
    Text.shortName id.qualified = id.name := by
  have last : Text.afterLast '.' id.qualified.toList = id.name.toList := by
    unfold Route.DeclarationId.qualified
    split
    · exact Text.afterLast_append [] undotted
    · rw [String.toList_append, Text.afterLast_append _ undotted, String.toList_append]
      simp [Text.afterLast]
  rw [Text.shortName, last, String.ofList_toList]

theorem qualified_default_ne {id other : Route.DeclarationId} (default : id.package = "")
    (packaged : other.package ≠ "") (undotted : '.' ∉ id.name.toList) :
    id.qualified ≠ other.qualified := by
  intro same
  simp only [Route.DeclarationId.qualified, if_pos default, if_neg packaged] at same
  exact undotted (by simp [same])

/-- Qualified names of usable names tell packages and names apart. With dots in
names they would not. -/
theorem qualified_inj {first second : Route.DeclarationId} (usable : Usable first.name)
    (otherUsable : Usable second.name) :
    first.qualified = second.qualified ↔
      first.package = second.package ∧ first.name = second.name := by
  constructor
  · intro same
    have name : first.name = second.name := by
      rw [← shortName_qualified usable.undotted, same, shortName_qualified otherUsable.undotted]
    refine ⟨?_, name⟩
    by_cases default : first.package = ""
    · by_cases otherDefault : second.package = ""
      · rw [default, otherDefault]
      · exact absurd same (qualified_default_ne default otherDefault usable.undotted)
    · by_cases otherDefault : second.package = ""
      · exact absurd same.symm (qualified_default_ne otherDefault default otherUsable.undotted)
      · simp only [Route.DeclarationId.qualified, if_neg default, if_neg otherDefault, name,
          String.append_left_inj] at same
        exact same
  · rintro ⟨package, name⟩
    simp only [Route.DeclarationId.qualified, package, name]

theorem visible_iff {text : String} :
    Text.isBlank text = false ↔ ∃ c ∈ text.toList, Text.isSpace c = false := by
  simp only [Text.isBlank, List.all_eq_false, Bool.not_eq_true]

private theorem sound_iff_documented {manifest : Manifest} :
    Sound manifest ↔ Documented manifest := by
  have apart (names : ∀ declaration ∈ manifest.declarations, Usable declaration.name) :
      (manifest.declarations.map (·.qualifiedName)).Nodup ↔
        manifest.declarations.Pairwise fun first second =>
          ¬ (first.package = second.package ∧ first.name = second.name) := by
    rw [List.Nodup, List.pairwise_map]
    refine List.Pairwise.iff_of_mem fun {first second} member otherMember => not_congr ?_
    exact @qualified_inj first.id second.id (names first member) (names second otherMember)
  constructor
  · intro sound
    have names : ∀ declaration ∈ manifest.declarations, Usable declaration.name :=
      fun declaration member => isUsable_iff.mp (sound.declarations declaration member).name
    refine ⟨visible_iff.mp sound.marker, isUsable_iff.mp sound.containerParam, names,
      (apart names).mp sound.distinct, ?_, ?_, ?_⟩
    · intro declaration member packaged segment inside
      have package := (sound.declarations declaration member).package.resolve_left packaged
      exact isUsable_iff.mp (package segment inside)
    · intro declaration member property held
      exact isUsable_iff.mp ((sound.declarations declaration member).properties.usable _ held)
    · intro declaration member
      exact List.pairwise_map.mp (sound.declarations declaration member).properties.distinct
  · intro documented
    refine ⟨visible_iff.mpr documented.marker, isUsable_iff.mpr documented.containerParam, ?_,
      (apart documented.names).mpr documented.distinct⟩
    intro declaration member
    refine ⟨isUsable_iff.mpr (documented.names declaration member), ?_, ?_, ?_⟩
    · by_cases default : declaration.package = ""
      · exact .inl default
      · refine .inr fun segment inside => isUsable_iff.mpr ?_
        exact documented.packages declaration member default segment inside
    · intro property held
      exact isUsable_iff.mpr (documented.propertyNames declaration member property held)
    · exact List.pairwise_map.mpr (documented.distinctProperties declaration member)

/-! ## Rules in document order -/

/-- One rule that a manifest has to keep, with all that it is about. -/
inductive Rule where
  | visibleMarker (marker : String)
  /-- A name of the given kind, in the declaration it belongs to if there is one. -/
  | usableName (owner : Option String) (kind name : String)
  | newDeclaration (earlier : List Declaration) (declaration : Declaration)
  | newProperty (owner : String) (earlier : List Manifest.Property) (property : Manifest.Property)

/-- What it is to keep a rule. -/
def Rule.Holds : Rule → Prop
  | visibleMarker marker => ∃ c ∈ marker.toList, Text.isSpace c = false
  | usableName _ _ name => Usable name
  | newDeclaration earlier declaration => ∀ other ∈ earlier,
      ¬ (other.package = declaration.package ∧ other.name = declaration.name)
  | newProperty _ earlier property => ∀ other ∈ earlier, other.name ≠ property.name

/-- The elements of a list, each with those before it, against which it must not
repeat a name. -/
def withEarlier {α : Type} (earlier : List α) : List α → List (List α × α)
  | [] => []
  | element :: rest => (earlier, element) :: withEarlier (earlier ++ [element]) rest

/-- The rules on the package of a declaration, one for every segment. The
default package has none. -/
def packageRules (declaration : Declaration) : List Rule :=
  if declaration.package = "" then []
  else (Text.segments declaration.package).map
    (.usableName (some declaration.name) "package segment")

/-- The rules on properties, the name of each before its being new. -/
def propertyRules (owner : String)
    (properties : List (List Manifest.Property × Manifest.Property)) : List Rule :=
  properties.flatMap fun (earlier, property) =>
    [.usableName (some owner) "property" property.name, .newProperty owner earlier property]

/-- The rules on declarations, one after the other. -/
def declarationRules (declarations : List (List Declaration × Declaration)) : List Rule :=
  declarations.flatMap fun (earlier, declaration) =>
    [.usableName none "declaration" declaration.name, .newDeclaration earlier declaration] ++
      packageRules declaration ++
      propertyRules declaration.name (withEarlier [] declaration.properties)

/-- The rules of a manifest in document order: those of the generator, then
those of every declaration, its own name before its package and its
properties. -/
def rules (manifest : Manifest) : List Rule :=
  [.visibleMarker manifest.settings.routeMarker,
    .usableName none "container parameter" manifest.settings.containerParam] ++
    declarationRules (withEarlier [] manifest.declarations)

/-- What a kind of name is called in the message about one of them. -/
def describe (owner : Option String) (kind : String) : String :=
  match owner with
  | none => kind
  | some name => kind ++ " in '" ++ name ++ "'"

/-- The error that tells of a broken rule, and that the rule is broken in the
way that the error says. -/
inductive Reports (source file : String) : Rule → Error → Prop where
  | hidden {marker : String} (blank : ∀ c ∈ marker.toList, Text.isSpace c = true) :
      Reports source file (.visibleMarker marker)
        (.invalid file "generator.route_annotation cannot be empty")
  | keyword {owner : Option String} {kind name : String} (reserved : name ∈ keywords) :
      Reports source file (.usableName owner kind name)
        (.reservedKeyword file name (describe owner kind) (Span.first? source name))
  | identifier {owner : Option String} {kind name : String} {fault : IdentifierFault}
      (free : name ∉ keywords) (faulty : Faulty name fault) :
      Reports source file (.usableName owner kind name)
        (.invalidIdentifier file name (describe owner kind) fault (Span.first? source name))
  | declaredAgain {earlier : List Declaration} {declaration other : Declaration}
      (member : other ∈ earlier) (package : other.package = declaration.package)
      (name : other.name = declaration.name) :
      Reports source file (.newDeclaration earlier declaration)
        (.duplicate file declaration.name "declaration" (Span.last? source declaration.name))
  | propertyAgain {owner : String} {earlier : List Manifest.Property}
      {property other : Manifest.Property}
      (member : other ∈ earlier) (name : other.name = property.name) :
      Reports source file (.newProperty owner earlier property)
        (.duplicate file property.name (describe (some owner) "property")
          (Span.last? source property.name))

variable {source file : String}

/-- A rule that an error is reported for does not hold. -/
theorem Reports.broken {rule : Rule} {error : Error} (reports : Reports source file rule error) :
    ¬ rule.Holds := by
  intro holds
  cases reports with
  | hidden blank =>
    obtain ⟨c, member, visible⟩ := holds
    rw [blank c member] at visible
    cases visible
  | keyword reserved => exact Usable.free holds reserved
  | identifier free faulty =>
    have valid := usable_identifier (isUsable_iff.mpr holds)
    rw [identifierFault_iff.mpr faulty] at valid
    cases valid
  | declaredAgain member package name => exact holds _ member ⟨package, name⟩
  | propertyAgain member name => exact holds _ member name

/-- A broken rule is reported in one way only, so the first broken one decides
the error. -/
theorem Reports.unique {rule : Rule} {error other : Error}
    (reports : Reports source file rule error) (again : Reports source file rule other) :
    error = other := by
  cases reports with
  | hidden => cases again; rfl
  | declaredAgain => cases again; rfl
  | propertyAgain => cases again; rfl
  | keyword reserved =>
    cases again with
    | keyword => rfl
    | identifier free => exact absurd reserved free
  | identifier free faulty =>
    cases again with
    | keyword reserved => exact absurd reserved free
    | identifier _ otherFaulty =>
      have same := (identifierFault_iff.mpr faulty).symm.trans (identifierFault_iff.mpr otherFaulty)
      cases same
      rfl

/-- A check goes through rules in order: it passes when all of them hold, and
otherwise reports the first one that is broken. -/
inductive Checks (source file : String) (result : Except Error Unit) (rules : List Rule) :
    Prop where
  | passed (ok : result = .ok ()) (held : ∀ rule ∈ rules, rule.Holds)
  | refused {kept later : List Rule} {rule : Rule} {error : Error} (failed : result = .error error)
      (split : rules = kept ++ rule :: later) (held : ∀ other ∈ kept, other.Holds)
      (reports : Reports source file rule error)

namespace Checks

variable {first second : Except Error Unit} {before after : List Rule}

/-- One check after another goes through the rules of both. The second one may
count on those of the first, since it only runs when they hold. -/
theorem append (checks : Checks source file first before)
    (next : (∀ rule ∈ before, rule.Holds) → Checks source file second after) :
    Checks source file (first >>= fun _ => second) (before ++ after) := by
  cases checks with
  | refused failed split held reports =>
    subst failed split
    exact .refused rfl (List.append_assoc ..) held reports
  | passed ok held =>
    subst ok
    cases next held with
    | passed ok heldAfter =>
      subst ok
      refine .passed rfl ?_
      intro rule member
      rcases List.mem_append.mp member with member | member
      · exact held rule member
      · exact heldAfter rule member
    | refused failed split heldAfter reports =>
      subst failed split
      refine .refused rfl (List.append_assoc ..).symm ?_ reports
      intro rule member
      rcases List.mem_append.mp member with member | member
      · exact held rule member
      · exact heldAfter rule member

private theorem nothing : Checks source file (.ok ()) [] :=
  .passed rfl (by simp)

/-- A refusal under a condition checks the rule that the condition breaks. -/
theorem refuse {condition : Prop} [Decidable condition] {error : Error} {rule : Rule}
    {rest : Except Error Unit} (breaks : condition → Reports source file rule error)
    (keeps : ¬ condition → rule.Holds)
    (next : rule.Holds → Checks source file rest after) :
    Checks source file (if condition then (throw error >>= fun _ : Unit => rest) else rest)
      (rule :: after) := by
  by_cases holds : condition
  · rw [if_pos holds]
    exact .refused rfl (List.nil_append _).symm (by simp) (breaks holds)
  · have one : Checks source file (.ok ()) [rule] := .passed rfl (by simpa using keeps holds)
    rw [if_neg holds]
    exact one.append fun held => next (held rule (by simp))

/-- What is reported for the first broken rule is what the check fails with. -/
theorem first_broken {result : Except Error Unit} {kept later : List Rule} {rule : Rule}
    {error : Error} (checks : Checks source file result (kept ++ rule :: later))
    (held : ∀ other ∈ kept, other.Holds) (reports : Reports source file rule error) :
    result = .error error := by
  cases checks with
  | passed ok all => exact absurd (all rule (by simp)) reports.broken
  | @refused keptHere laterHere found reported failed split heldHere reportsHere =>
    -- whichever of the two rules came first would be among those that hold
    rcases List.append_eq_append_iff.mp split with ⟨between, rfl, rest⟩ | ⟨between, rfl, rest⟩
    · cases between with
      | nil =>
        cases rest
        rw [failed, reports.unique reportsHere]
      | cons other between =>
        cases rest
        exact absurd (heldHere rule (by simp)) reports.broken
    · cases between with
      | nil =>
        cases rest
        rw [failed, reports.unique reportsHere]
      | cons other between =>
        cases rest
        exact absurd (held found (by simp)) reportsHere.broken

end Checks

/-! ## The checks of validation -/

/-- The scope of names that belong to a declaration, or to none. -/
def scopeOf (source file : String) (owner : Option String) : Scope :=
  { source, file, path := owner.toList }

private theorem describe_scopeOf (owner : Option String) (kind : String) :
    (scopeOf source file owner).describe kind = describe owner kind := by
  cases owner with
  | none => rfl
  | some name => simp [scopeOf, Scope.describe, Scope.pathText, describe]

private theorem name_checked (owner : Option String) (name kind : String) :
    Checks source file ((scopeOf source file owner).checkName name kind)
      [.usableName owner kind name] := by
  by_cases reserved : name ∈ keywords
  · have keyword : isKeyword name = true := by simpa [isKeyword] using reserved
    refine .refused ?_ (List.nil_append _).symm (by simp) (.keyword reserved)
    rw [Scope.checkName, if_pos keyword, describe_scopeOf]
    rfl
  · have free : ¬ isKeyword name = true := by simpa [isKeyword] using reserved
    cases found : identifierFault? name with
    | none =>
      refine .passed (by rw [Scope.checkName, if_neg free, found]) ?_
      have usable : isUsable name = true := by simp [isUsable, free, found]
      simpa [Rule.Holds] using isUsable_iff.mp usable
    | some fault =>
      refine .refused ?_ (List.nil_append _).symm (by simp)
        (.identifier reserved (identifierFault_iff.mp found))
      rw [Scope.checkName, if_neg free, found, describe_scopeOf]
      rfl

private theorem package_checked (declaration : Declaration) :
    Checks source file
      ((scopeOf source file (some declaration.name)).checkPackage declaration.package)
      (packageRules declaration) := by
  unfold Scope.checkPackage packageRules
  split
  · exact .nothing
  · induction Text.segments declaration.package with
    | nil => exact .nothing
    | cons segment rest ih => exact (name_checked _ segment "package segment").append fun _ => ih

/-- The names seen so far are those of the earlier properties. -/
theorem properties_checked (owner : String) (earlier properties : List Manifest.Property) :
    Checks source file
      ((scopeOf source file (some owner)).checkProperties (earlier.map (·.name)) properties)
      (propertyRules owner (withEarlier earlier properties)) := by
  induction properties generalizing earlier with
  | nil => exact .nothing
  | cons property rest ih =>
    have later := ih (earlier ++ [property])
    rw [List.map_append] at later
    refine (name_checked (some owner) property.name "property").append fun _ =>
      .refuse ?_ ?_ fun _ => later
    · intro repeated
      obtain ⟨other, member, same⟩ := List.mem_map.mp (List.contains_iff_mem.mp repeated)
      have reports : Reports source file (.newProperty owner earlier property) _ :=
        .propertyAgain member same
      rw [← describe_scopeOf] at reports
      exact reports
    · intro fresh other member same
      exact fresh (List.contains_iff_mem.mpr (List.mem_map.mpr ⟨other, member, same⟩))

/-- The qualified names seen so far are those of the earlier declarations, all
of them made of usable names, so that a repeated one is a repeated pair. -/
theorem declarations_checked (earlier declarations : List Declaration)
    (usable : ∀ declaration ∈ earlier, Usable declaration.name) :
    Checks source file
      ((scopeOf source file none).checkDeclarations (earlier.map (·.qualifiedName)) declarations)
      (declarationRules (withEarlier earlier declarations)) := by
  induction declarations generalizing earlier with
  | nil => exact .nothing
  | cons declaration rest ih =>
    have ordered : declarationRules (withEarlier earlier (declaration :: rest)) =
        [.usableName none "declaration" declaration.name] ++
          .newDeclaration earlier declaration :: (packageRules declaration ++
            (propertyRules declaration.name (withEarlier [] declaration.properties) ++
              declarationRules (withEarlier (earlier ++ [declaration]) rest))) := by
      simp [declarationRules, withEarlier]
    rw [ordered]
    refine (name_checked none declaration.name "declaration").append fun named => ?_
    have own : Usable declaration.name :=
      named (.usableName none "declaration" declaration.name) (by simp)
    have same {other : Declaration} (member : other ∈ earlier) :
        other.qualifiedName = declaration.qualifiedName ↔
          other.package = declaration.package ∧ other.name = declaration.name :=
      @qualified_inj other.id declaration.id (usable other member) own
    refine .refuse ?_ ?_ fun _ => ?_
    · intro repeated
      obtain ⟨other, member, qualified⟩ := List.mem_map.mp (List.contains_iff_mem.mp repeated)
      obtain ⟨package, name⟩ := (same member).mp qualified
      exact .declaredAgain member package name
    · intro fresh other member alike
      exact fresh (List.contains_iff_mem.mpr
        (List.mem_map.mpr ⟨other, member, (same member).mpr alike⟩))
    · refine (package_checked declaration).append fun _ =>
        (properties_checked declaration.name [] declaration.properties).append fun _ => ?_
      have later := ih (earlier ++ [declaration]) (by
        intro other member
        rcases List.mem_append.mp member with member | member
        · exact usable other member
        · exact List.mem_singleton.mp member ▸ own)
      rw [List.map_append] at later
      exact later

/-- Validation goes through the rules of a manifest in document order. -/
theorem manifest_checked (manifest : Manifest) (source file : String) :
    Checks source file (validate manifest source file) (rules manifest) := by
  have blank : ¬ Text.isBlank manifest.settings.routeMarker = true ↔
      (Rule.visibleMarker manifest.settings.routeMarker).Holds :=
    Bool.not_eq_true _ ▸ visible_iff
  refine .refuse ?_ blank.mp fun _ => ?_
  · intro hidden
    exact .hidden (List.all_eq_true.mp hidden)
  · exact (name_checked none manifest.settings.containerParam "container parameter").append fun _ =>
      declarations_checked [] manifest.declarations (by simp)

/-- Validation passes exactly the documented manifests. It fails with an error
exactly when that error tells of the first broken rule in document order. -/
theorem validation_documented (manifest : Manifest) (source file : String) :
    (validate manifest source file = .ok () ↔ Documented manifest) ∧
      ∀ error, validate manifest source file = .error error ↔
        ∃ kept rule later, rules manifest = kept ++ rule :: later ∧
          (∀ other ∈ kept, other.Holds) ∧ Reports source file rule error := by
  have checked := manifest_checked manifest source file
  refine ⟨validate_ok.trans sound_iff_documented, fun error => ?_⟩
  constructor
  · intro failed
    cases checked with
    | passed ok => rw [ok] at failed; cases failed
    | refused reported split held reports =>
      rw [reported] at failed
      cases failed
      exact ⟨_, _, _, split, held, reports⟩
  · rintro ⟨kept, rule, later, split, held, reports⟩
    rw [split] at checked
    exact checked.first_broken held reports

end TypedRoutes.ValidationRules
