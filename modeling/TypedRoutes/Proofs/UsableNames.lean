import Mathlib
import TypedRoutes.Kotlin.Identifier

/-! What the identifier rules leave: names made of ASCII letters, digits and
underscores, so that no mark of a path, a dotted name or a literal is in them. -/
namespace TypedRoutes.UsableNames
open Kotlin

/-- A character that an identifier can hold, at whatever place. -/
def isNameCharacter (c : Char) : Bool :=
  c.isAlphanum || c == '_'

theorem identifier_nonempty {name : String} (valid : identifierFault? name = none) :
    name.toList ≠ [] := by
  intro empty
  simp [identifierFault?, empty] at valid

private theorem identifier_characters {name : String} (valid : identifierFault? name = none) :
    ∀ c ∈ name.toList, isNameCharacter c = true := by
  unfold identifierFault? at valid
  cases spelled : name.toList with
  | nil => simp
  | cons first rest =>
    simp only [spelled] at valid
    split at valid
    · cases valid
    · rename_i start
      split at valid
      · cases valid
      · rename_i others
        intro c member
        rcases List.mem_cons.mp member with rfl | member
        · simp only [Bool.not_eq_true', Bool.not_eq_false] at start
          rcases Bool.or_eq_true_iff.mp start with letter | underscore
          · simp [isNameCharacter, Char.isAlphanum, letter]
          · simp [isNameCharacter, underscore]
        · simp only [Bool.not_eq_true', Bool.not_eq_false] at others
          exact List.all_eq_true.mp others c member

/-- A mark that is no letter, digit or underscore is not in an identifier.
Separators, dots and quotes are such marks. -/
theorem identifier_excludes {name : String} (mark : Char)
    (valid : identifierFault? name = none) (outside : isNameCharacter mark = false) :
    mark ∉ name.toList := by
  intro member
  have inside := identifier_characters valid mark member
  rw [outside] at inside
  cases inside

theorem usable_identifier {name : String} (usable : isUsable name = true) :
    identifierFault? name = none := by
  simp only [isUsable, Bool.and_eq_true, Option.isNone_iff_eq_none] at usable
  exact usable.2

/-! ## Usable names, letter by letter -/

def IsLetter (c : Char) : Prop :=
  ('a' ≤ c ∧ c ≤ 'z') ∨ ('A' ≤ c ∧ c ≤ 'Z')

def IsDigit (c : Char) : Prop :=
  '0' ≤ c ∧ c ≤ '9'

/-- A character that a name may start with: a letter or an underscore. -/
def Starts (c : Char) : Prop :=
  IsLetter c ∨ c = '_'

/-- A character that a name may go on with: these and digits. -/
def Continues (c : Char) : Prop :=
  IsLetter c ∨ IsDigit c ∨ c = '_'

/-- A name that generated code can use as it is. It is told by characters, so
that it can be checked against a manifest by hand. -/
structure Usable (name : String) : Prop where
  free : name ∉ keywords
  nonempty : name ≠ ""
  start : ∀ first ∈ name.toList.head?, Starts first
  characters : ∀ c ∈ name.toList, Continues c
  visible : ∃ c ∈ name.toList, c ≠ '_'

/-- What is wrong with a name that is no identifier. Of several faults the first
one in this order is the one that counts. -/
inductive Faulty (name : String) : IdentifierFault → Prop where
  | empty (nothing : name = "") : Faulty name .empty
  | badStart {first : Char} {rest : List Char} (spelled : name.toList = first :: rest)
      (start : ¬ Starts first) : Faulty name .badStart
  | badCharacter {first c : Char} {rest : List Char} (spelled : name.toList = first :: rest)
      (start : Starts first) (member : c ∈ rest) (foreign : ¬ Continues c) :
      Faulty name .badCharacter
  | onlyUnderscores (nonempty : name ≠ "") (plain : ∀ c ∈ name.toList, c = '_') :
      Faulty name .onlyUnderscores

instance (c : Char) : Decidable (Starts c) :=
  inferInstanceAs (Decidable ((_ ∧ _ ∨ _ ∧ _) ∨ _))

instance (c : Char) : Decidable (Continues c) :=
  inferInstanceAs (Decidable ((_ ∧ _ ∨ _ ∧ _) ∨ (_ ∧ _) ∨ _))

theorem isAlpha_iff (c : Char) : c.isAlpha = true ↔ IsLetter c := by
  simp only [Char.isAlpha, Char.isUpper, Char.isLower, Bool.or_eq_true, Bool.and_eq_true,
    decide_eq_true_eq, IsLetter]
  exact or_comm

private theorem isDigit_iff (c : Char) : c.isDigit = true ↔ IsDigit c := by
  simp only [Char.isDigit, Bool.and_eq_true, decide_eq_true_eq, IsDigit]
  rfl

private theorem starts_iff (c : Char) : (c.isAlpha || c == '_') = true ↔ Starts c := by
  rw [Bool.or_eq_true, isAlpha_iff, beq_iff_eq, Starts]

private theorem continues_iff (c : Char) : (c.isAlphanum || c == '_') = true ↔ Continues c := by
  rw [Bool.or_eq_true, Char.isAlphanum, Bool.or_eq_true, isAlpha_iff, isDigit_iff, beq_iff_eq,
    Continues, or_assoc]

private theorem Starts.continues {c : Char} (start : Starts c) : Continues c :=
  start.imp_right .inr

private theorem identifierFault_cons {name : String} {first : Char} {rest : List Char}
    (spelled : name.toList = first :: rest) :
    identifierFault? name =
      if ¬ Starts first then some .badStart
      else if ¬ ∀ c ∈ rest, Continues c then some .badCharacter
      else if ∀ c ∈ name.toList, c = '_' then some .onlyUnderscores
      else none := by
  simp only [identifierFault?, spelled, Bool.not_eq_true', ← Bool.not_eq_true, starts_iff,
    List.all_eq_true, continues_iff, beq_iff_eq]

/-- The fault that is found in a name is the one that the name has. -/
theorem identifierFault_iff {name : String} {fault : IdentifierFault} :
    identifierFault? name = some fault ↔ Faulty name fault := by
  constructor
  · intro found
    cases spelled : name.toList with
    | nil =>
      simp only [identifierFault?, spelled, Option.some.injEq] at found
      exact found ▸ .empty (String.toList_eq_nil_iff.mp spelled)
    | cons first rest =>
      rw [identifierFault_cons spelled] at found
      split at found
      · rename_i start
        cases found
        exact .badStart spelled start
      · rename_i start
        split at found
        · rename_i foreign
          cases found
          obtain ⟨c, foreign⟩ := Classical.not_forall.mp foreign
          obtain ⟨member, foreign⟩ := Classical.not_imp.mp foreign
          exact .badCharacter spelled (Decidable.not_not.mp start) member foreign
        · split at found
          · rename_i plain
            cases found
            have nonempty : name ≠ "" := by
              rintro rfl
              cases spelled
            exact .onlyUnderscores nonempty plain
          · cases found
  · rintro (nothing | ⟨spelled, start⟩ | ⟨spelled, start, member, foreign⟩ | ⟨nonempty, plain⟩)
    · simp [identifierFault?, nothing]
    · rw [identifierFault_cons spelled, if_pos start]
    · rw [identifierFault_cons spelled, if_neg (not_not_intro start),
        if_pos fun all => foreign (all _ member)]
    · cases spelled : name.toList with
      | nil => exact absurd (String.toList_eq_nil_iff.mp spelled) nonempty
      | cons first rest =>
        have underscores : ∀ c ∈ first :: rest, c = '_' := spelled ▸ plain
        have starts : Starts first := .inr (underscores first (by simp))
        have goesOn : ∀ c ∈ rest, Continues c :=
          fun c member => .inr (.inr (underscores c (by simp [member])))
        rw [identifierFault_cons spelled, if_neg (not_not_intro starts),
          if_neg (not_not_intro goesOn), if_pos plain]

/-- A name is usable when it is no keyword and has no fault. -/
theorem isUsable_iff {name : String} : isUsable name = true ↔ Usable name := by
  simp only [isUsable, isKeyword, Bool.and_eq_true, Bool.not_eq_true', List.contains_eq_mem,
    decide_eq_false_iff_not, Option.isNone_iff_eq_none]
  constructor
  · rintro ⟨free, valid⟩
    cases spelled : name.toList with
    | nil => simp [identifierFault?, spelled] at valid
    | cons first rest =>
      rw [identifierFault_cons spelled] at valid
      split_ifs at valid with start goesOn plain
      have nonempty : name ≠ "" := by
        rintro rfl
        cases spelled
      refine ⟨free, nonempty, ?_, ?_, ?_⟩
      · simpa [spelled] using start
      · rw [spelled]
        exact List.forall_mem_cons.mpr ⟨Starts.continues start, goesOn⟩
      · simpa using plain
  · intro usable
    refine ⟨usable.free, ?_⟩
    cases spelled : name.toList with
    | nil => exact absurd (String.toList_eq_nil_iff.mp spelled) usable.nonempty
    | cons first rest =>
      have start : Starts first := usable.start first (by simp [spelled])
      have goesOn : ∀ c ∈ rest, Continues c :=
        fun c member => usable.characters c (by simp [spelled, member])
      obtain ⟨c, member, visible⟩ := usable.visible
      rw [identifierFault_cons spelled, if_neg (not_not_intro start),
        if_neg (not_not_intro goesOn), if_neg fun plain => visible (plain c member)]

/-- A usable name has no dots, so qualified names can be taken apart again. -/
theorem Usable.undotted {name : String} (usable : Usable name) : '.' ∉ name.toList := by
  intro dot
  have foreign : ¬ Continues '.' := by decide
  exact foreign (usable.characters '.' dot)

end TypedRoutes.UsableNames
