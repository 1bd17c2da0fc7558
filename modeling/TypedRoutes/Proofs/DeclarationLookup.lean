import TypedRoutes.Command.Route
import TypedRoutes.Proofs.ValidationRules

/-! Looking declarations up by name. One scan looks for simple and qualified
names alike and stops at the first declaration that goes by the name. The
qualified name of a packaged declaration is nobody's simple name, so it finds
its own. That of a declaration of the default package is a simple name too, and
an earlier declaration of some package may have taken it. -/
namespace TypedRoutes.DeclarationLookup
open Manifest SoundManifests UsableNames ValidationRules Command

/-- A declaration goes by its simple and by its qualified name. In the default
package the two are one. -/
def KnownBy (declaration : Declaration) (name : String) : Prop :=
  declaration.name = name ∨ declaration.qualifiedName = name

/-- A declaration of the default package whose name some package has taken among
the declarations before it. Its qualified name is the simple name of the
other. -/
def Hidden (before : List Declaration) (declaration : Declaration) : Prop :=
  declaration.package = "" ∧
    ∃ other ∈ before, other.package ≠ "" ∧ other.name = declaration.name

/-- How a declaration behind others is addressed: whether its qualified name
finds it, what the name finds instead, and what a request by the name serves. -/
structure Addressed (manifest : Manifest) (before : List Declaration) (declaration : Declaration) :
    Prop where
  found : ¬ Hidden before declaration →
    manifest.find? declaration.qualifiedName = some declaration
  /-- Requests under its qualified name are answered as if it were on its own. -/
  served : ¬ Hidden before declaration → ∀ values,
    route manifest declaration.qualifiedName values =
      route { manifest with declarations := [declaration] } declaration.qualifiedName values
  /-- The name of a hidden declaration finds the first one of that name, and no
  name finds the hidden one. -/
  hidden : Hidden before declaration →
    (∃ front first rest, before = front ++ first :: rest ∧ first.name = declaration.name ∧
      (∀ other ∈ front, other.name ≠ declaration.name) ∧
      manifest.find? declaration.qualifiedName = some first) ∧
    ∀ name, manifest.find? name ≠ some declaration

variable {manifest : Manifest} {before after : List Declaration} {declaration : Declaration}

private theorem known_iff {name : String} :
    (declaration.name == name || declaration.qualifiedName == name) = true ↔
      KnownBy declaration name := by
  rw [Bool.or_eq_true, beq_iff_eq, beq_iff_eq, KnownBy]

private theorem find_none_iff {name : String} :
    manifest.find? name = none ↔ ∀ other ∈ manifest.declarations, ¬ KnownBy other name := by
  simp only [Manifest.find?, List.find?_eq_none, known_iff]

/-- The first declaration known by a name is found, whichever of its two names
that is. -/
theorem find_first {name : String} (split : manifest.declarations = before ++ declaration :: after)
    (known : KnownBy declaration name) (others : ∀ other ∈ before, ¬ KnownBy other name) :
    manifest.find? name = some declaration := by
  refine List.find?_eq_some_iff_append.mpr ⟨known_iff.mpr known, before, after, split, ?_⟩
  intro other member
  rw [Bool.not_eq_true', ← Bool.not_eq_true, known_iff]
  exact others other member

private theorem qualified_default (default : declaration.package = "") :
    declaration.qualifiedName = declaration.name :=
  if_pos default

/-- A name that can be used is no qualified name with a package, since it has no
dots. -/
theorem name_unqualified {other : Declaration} (usable : Usable other.name)
    (packaged : declaration.package ≠ "") : other.name ≠ declaration.qualifiedName :=
  @qualified_default_ne ⟨"", other.name⟩ declaration.id rfl packaged usable.undotted

section Sound
variable (sound : Sound manifest)
  (split : manifest.declarations = before ++ declaration :: after)
include sound split

/-- No declaration before another one has its qualified name, as validation
refuses a second one. -/
theorem qualified_apart {other : Declaration} (member : other ∈ before) :
    other.qualifiedName ≠ declaration.qualifiedName := by
  have distinct := sound.distinct
  rw [split, List.map_append, List.map_cons, List.nodup_append] at distinct
  exact distinct.2.2 _ (List.mem_map_of_mem member) _ (List.mem_cons_self ..)

private theorem usable_before {other : Declaration} (member : other ∈ before) : Usable other.name :=
  isUsable_iff.mp (sound.declarations other (by simp [split, member])).name

/-- Only what hides a declaration goes by its qualified name before it. -/
theorem taken_hidden {other : Declaration} (member : other ∈ before)
    (known : KnownBy other declaration.qualifiedName) : Hidden before declaration := by
  rcases known with same | same
  · by_cases default : declaration.package = ""
    · refine ⟨default, other, member, ?_, same.trans (qualified_default default)⟩
      intro otherDefault
      exact qualified_apart sound split member ((qualified_default otherDefault).trans same)
    · exact absurd same (name_unqualified (usable_before sound split member) default)
  · exact absurd same (qualified_apart sound split member)

private theorem found_unhidden (shown : ¬ Hidden before declaration) :
    manifest.find? declaration.qualifiedName = some declaration :=
  find_first split (.inr rfl) fun _ member known => shown (taken_hidden sound split member known)

/-- Where a declaration is hidden its name finds the first that has it, which
need not be the one next to it. -/
theorem found_hidden (hidden : Hidden before declaration) :
    ∃ front first rest, before = front ++ first :: rest ∧ first.name = declaration.name ∧
      (∀ other ∈ front, other.name ≠ declaration.name) ∧
      manifest.find? declaration.qualifiedName = some first := by
  obtain ⟨default, other, member, -, taken⟩ := hidden
  have named := qualified_default default
  cases found : before.find? (·.name == declaration.name) with
  | none => exact absurd taken (by simpa using List.find?_eq_none.mp found other member)
  | some first =>
    obtain ⟨same, front, rest, inner, fresh⟩ := List.find?_eq_some_iff_append.mp found
    simp only [beq_iff_eq] at same
    simp only [Bool.not_eq_true', beq_eq_false_iff_ne, ne_eq] at fresh
    refine ⟨front, first, rest, inner, same, fresh, ?_⟩
    have outer : manifest.declarations = front ++ first :: (rest ++ declaration :: after) := by
      rw [split, inner, List.append_assoc, List.cons_append]
    refine find_first outer (.inl (same.trans named.symm)) ?_
    rintro earlier inFront (simple | qualified)
    · exact fresh earlier inFront (simple.trans named)
    · exact qualified_apart sound split (by simp [inner, inFront]) qualified

/-- A hidden declaration goes by one name, which finds another one. So there is
no name at all to find it by. -/
theorem hidden_unfound (hidden : Hidden before declaration) (name : String) :
    manifest.find? name ≠ some declaration := by
  intro found
  have known : KnownBy declaration name := known_iff.mp (List.find?_eq_some_iff_append.mp found).1
  have own : name = declaration.qualifiedName := by
    rcases known with simple | qualified
    · rw [qualified_default hidden.1, simple]
    · exact qualified.symm
  obtain ⟨front, first, rest, inner, -, -, other⟩ := found_hidden sound split hidden
  have member : first ∈ before := by simp [inner]
  rw [own, other, Option.some.injEq] at found
  exact qualified_apart sound split member (by rw [found])

/-- A request reads no more of a manifest than its settings and what it finds,
so it is served as if there were no other declaration. -/
theorem served_unhidden (shown : ¬ Hidden before declaration) (values : List (String × String)) :
    route manifest declaration.qualifiedName values =
      route { manifest with declarations := [declaration] } declaration.qualifiedName values := by
  have single : ({ manifest with declarations := [declaration] } : Manifest).declarations =
      [] ++ declaration :: [] := rfl
  have alone := find_first single (.inr rfl) (List.forall_mem_nil _)
  simp only [route, found_unhidden sound split shown, alone]
  rfl

end Sound

/-- In a manifest that was read from a text every declaration is found by its
qualified name, but for those of the default package that are hidden, and only
names of no declaration find nothing. -/
theorem declarations_addressed {source file : String}
    (accepted : Manifest.parse source file = .ok manifest) :
    (∀ before declaration after, manifest.declarations = before ++ declaration :: after →
      Addressed manifest before declaration) ∧
    ∀ name, manifest.find? name = none ↔ ∀ other ∈ manifest.declarations, ¬ KnownBy other name := by
  have sound := (parse_ok.mp accepted).2
  refine ⟨fun before declaration after split => ⟨?_, ?_, ?_⟩, fun name => find_none_iff⟩
  · exact found_unhidden sound split
  · exact served_unhidden sound split
  · intro hidden
    exact ⟨found_hidden sound split hidden, hidden_unfound sound split hidden⟩

/-- Two declarations of one name, the packaged one first, and one of another. -/
def homesText : String :=
  "[[declaration]]\nname=\"Home\"\npackage=\"com.app\"\n" ++
  "[[declaration]]\nname=\"Home\"\n[[declaration]]\nname=\"About\"\n"

def packagedHome : Declaration where
  name := "Home"
  package := "com.app"

def defaultHome : Declaration where
  name := "Home"

def homesManifest : Manifest where
  declarations := [packagedHome, defaultHome, { name := "About" }]

private theorem homes_accepted : Manifest.parse homesText "wayfinder.toml" = .ok homesManifest :=
  parse_checked (by cbv) (by rfl)

theorem declarations_addressed_homes :
    Manifest.parse homesText "wayfinder.toml" = .ok homesManifest ∧
      homesManifest.find? "About" = some { name := "About" } ∧
      homesManifest.find? "com.app.Home" = some packagedHome ∧
      ∀ name, homesManifest.find? name ≠ some defaultHome := by
  obtain ⟨addressed, -⟩ := declarations_addressed homes_accepted
  have home := addressed [] packagedHome _ rfl
  have about := addressed [packagedHome, defaultHome] { name := "About" } [] rfl
  have second := addressed [packagedHome] defaultHome _ rfl
  have shown : ¬ Hidden [packagedHome, defaultHome] { name := "About" } := by
    rintro ⟨-, other, member, packaged, same⟩
    revert other
    decide
  have hidden : Hidden [packagedHome] defaultHome := ⟨rfl, packagedHome, .head _, by decide, rfl⟩
  refine ⟨homes_accepted, about.found shown, home.found ?_, (second.hidden hidden).2⟩
  rintro ⟨default, -⟩
  exact absurd default (by decide)

/-- The qualified name of a declaration of the default package can find another
declaration, of the same name in a package that comes first. -/
theorem qualified_name_taken : ¬ ∀ source file manifest,
    Manifest.parse source file = .ok manifest → ∀ declaration ∈ manifest.declarations,
      manifest.find? declaration.qualifiedName = some declaration := by
  intro always
  have own := always homesText "wayfinder.toml" homesManifest homes_accepted defaultHome
    (by simp [homesManifest])
  have other : homesManifest.find? defaultHome.qualifiedName = some packagedHome := by
    decide +kernel
  rw [other, Option.some.injEq] at own
  exact absurd own (by decide)

end TypedRoutes.DeclarationLookup
