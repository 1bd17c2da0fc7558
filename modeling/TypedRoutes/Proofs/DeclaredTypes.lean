import TypedRoutes.Route.Primitive

/-! Types as declarations spell them. A type is classified by three cuts, at the
last character, at the first bracket and at the last dot. Qualifiers and type
arguments may hold dots, brackets and marks of their own, and yet the cuts find
exactly the types that are spelled with one of six simple names. -/
namespace TypedRoutes.DeclaredTypes
open Route

/-- The simple names of the types that a field can be read back as. These six
are all there are, and letters of another case make another name. -/
inductive Names : String → Primitive → Prop where
  | string : Names "String" .string
  | boolean : Names "Boolean" .boolean
  | int : Names "Int" .int
  | float : Names "Float" .float
  | double : Names "Double" .double
  | long : Names "Long" .long

/-- What may stand in front of a simple name: a qualifier and a dot. The
qualifier may be anything that opens no bracket, so it need not be a package. -/
inductive Qualifies : String → Prop where
  | nothing : Qualifies ""
  | dotted (qualifier : String) (unapplied : '<' ∉ qualifier.toList) : Qualifies (qualifier ++ ".")

/-- What may stand behind it: a bracket and any text, whether or not the bracket
is closed. -/
inductive Applies : String → Prop where
  | nothing : Applies ""
  | opened (arguments : String) : Applies ("<" ++ arguments)

/-- What may stand at the end: a nullable mark, and no more than one. -/
inductive Marks : String → Prop where
  | nothing : Marks ""
  | nullable : Marks "?"

/-- Types that are spelled with a simple name: a qualifier, the name, arguments
and a mark, of which only the name has to be there. -/
inductive Spelled (name : String) : String → Prop where
  | parts {qualifier arguments mark : String} (qualified : Qualifies qualifier)
      (applied : Applies arguments) (marked : Marks mark) :
      Spelled name (qualifier ++ name ++ arguments ++ mark)

/-- How a declared type is classified: by the name that it is spelled with if
this is one of the six, and else not at all. -/
structure Classified (declared : String) : Prop where
  kinds : ∀ name kind, Names name kind →
    (primitiveOf? declared = some kind ↔ Spelled name declared)
  single : ∀ name kind other otherKind, Names name kind → Names other otherKind →
    Spelled name declared → Spelled other declared → name = other
  unsupported : primitiveOf? declared = none ↔
    ∀ name kind, Names name kind → ¬ Spelled name declared

variable {declared name qualifier arguments : String}

/-- Characters that the cuts do not look for, so a name of these comes through
all of them. -/
structure Simple (name : String) : Prop where
  nonempty : name ≠ ""
  unmarked : '?' ∉ name.toList
  unapplied : '<' ∉ name.toList
  unqualified : '.' ∉ name.toList

/-! ## The cuts on any type -/

private theorem mark_cut (declared : String) :
    ∃ mark, Marks mark ∧ declared = nonNullType declared ++ mark := by
  rcases nonNullType_splits declared with whole | split
  · exact ⟨"", .nothing, by rw [String.append_empty]; exact whole⟩
  · exact ⟨"?", .nullable, split⟩

private theorem arguments_cut (type : String) : ∃ arguments, Applies arguments ∧
    type = String.ofList (Text.beforeFirst '<' type.toList) ++ arguments := by
  rcases Text.beforeFirst_splits '<' type.toList with whole | ⟨rest, split⟩
  · exact ⟨"", .nothing, by rw [← whole]; simp⟩
  · refine ⟨"<" ++ String.ofList rest, .opened _, ?_⟩
    apply String.toList_inj.mp
    simpa using split

private theorem qualifier_cut {cs : List Char} (unapplied : '<' ∉ cs) :
    ∃ qualifier, Qualifies qualifier ∧
    String.ofList cs = qualifier ++ String.ofList (Text.afterLast '.' cs) := by
  rcases Text.afterLast_splits '.' cs with whole | ⟨front, split⟩
  · exact ⟨"", .nothing, by rw [← whole, String.empty_append]⟩
  · refine ⟨String.ofList front ++ ".", .dotted _ ?_, ?_⟩
    · rw [String.toList_ofList]
      intro member
      rw [split] at unapplied
      exact unapplied (List.mem_append_left _ member)
    · apply String.toList_inj.mp
      simpa using split

/-- A type is spelled with whatever the cuts leave of it. This is so for every
text, and gives one direction of the classification. -/
theorem simpleTypeName_spelled (declared : String) :
    Spelled (simpleTypeName declared) declared := by
  obtain ⟨mark, marked, outer⟩ := mark_cut declared
  obtain ⟨arguments, applied, middle⟩ := arguments_cut (nonNullType declared)
  obtain ⟨qualifier, qualified, inner⟩ :=
    qualifier_cut (Text.beforeFirst_unmarked '<' (nonNullType declared).toList)
  have spelled := @Spelled.parts (simpleTypeName declared) _ _ _ qualified applied marked
  rw [inner] at middle
  rwa [simpleTypeName, ← middle, ← outer] at spelled

/-! ## The cuts on a type spelled with a simple name -/

private theorem unmarked_behind (front : String) {back : String} (nonempty : back ≠ "")
    (unmarked : back.toList.getLast? ≠ some '?') :
    (front ++ back).toList.getLast? ≠ some '?' := by
  rw [String.toList_append, List.getLast?_append]
  cases ends : back.toList.getLast? with
  | none => exact absurd (String.toList_eq_nil_iff.mp (List.getLast?_eq_none_iff.mp ends)) nonempty
  | some last => rwa [Option.some_or, ← ends]

private theorem Simple.unmarked_end (simple : Simple name) : name.toList.getLast? ≠ some '?' :=
  fun marked => simple.unmarked (List.mem_of_getLast? marked)

private theorem unmarked_arguments (unmarked : arguments.toList.getLast? ≠ some '?') :
    ("<" ++ arguments).toList.getLast? ≠ some '?' := by
  by_cases empty : arguments = ""
  · subst empty
    decide
  · exact unmarked_behind "<" empty unmarked

/-- Without its mark a type is spelled with the same name. Where no mark stands
behind the arguments, the arguments themselves may end in one, which is cut off. -/
theorem nonNullType_spelled (simple : Simple name) (applied : Applies arguments) {mark : String}
    (marked : Marks mark) (qualifier : String) :
    ∃ left, Applies left ∧
      nonNullType (qualifier ++ name ++ arguments ++ mark) = qualifier ++ name ++ left := by
  cases marked with
  | nullable => exact ⟨arguments, applied, nonNullType_marked _⟩
  | nothing =>
    rw [String.append_empty]
    cases applied with
    | nothing =>
      refine ⟨"", .nothing, nonNullType_unmarked ?_⟩
      rw [String.append_empty]
      exact unmarked_behind qualifier simple.nonempty simple.unmarked_end
    | opened arguments =>
      by_cases ends : arguments.toList.getLast? = some '?'
      · obtain ⟨front, spelled⟩ := List.getLast?_eq_some_iff.mp ends
        have cut : arguments = String.ofList front ++ "?" := by
          apply String.toList_inj.mp
          simp [spelled]
        refine ⟨"<" ++ String.ofList front, .opened _, ?_⟩
        rw [cut, ← String.append_assoc, ← String.append_assoc, nonNullType_marked,
          String.append_assoc]
      · refine ⟨"<" ++ arguments, .opened _, nonNullType_unmarked ?_⟩
        exact unmarked_behind _ (by simp) (unmarked_arguments ends)

private theorem beforeFirst_applied {left : String} (applied : Applies left) :
    Text.beforeFirst '<' left.toList = [] := by
  cases applied with
  | nothing => rfl
  | opened arguments => simp [Text.beforeFirst]

private theorem Qualifies.unapplied (qualified : Qualifies qualifier) : '<' ∉ qualifier.toList := by
  cases qualified with
  | nothing => simp
  | dotted qualifier unapplied => simpa using unapplied

private theorem afterLast_qualified (simple : Simple name) (qualified : Qualifies qualifier) :
    Text.afterLast '.' (qualifier ++ name).toList = name.toList := by
  cases qualified with
  | nothing =>
    rw [String.empty_append, ← List.nil_append name.toList,
      Text.afterLast_append [] simple.unqualified]
    rfl
  | dotted qualifier unapplied =>
    have spelled : (qualifier ++ "." ++ name).toList = qualifier.toList ++ '.' :: name.toList := by
      simp
    rw [spelled, Text.afterLast_behind _ simple.unqualified]

/-- The cuts find the simple name that a type is spelled with, which gives the
other direction. -/
theorem spelled_simpleTypeName (simple : Simple name) (spelled : Spelled name declared) :
    simpleTypeName declared = name := by
  cases spelled with
  | @parts qualifier arguments mark qualified applied marked =>
    obtain ⟨left, applies, core⟩ := nonNullType_spelled simple applied marked qualifier
    have unapplied : '<' ∉ (qualifier ++ name).toList := by
      rw [String.toList_append, List.mem_append]
      exact not_or.mpr ⟨qualified.unapplied, simple.unapplied⟩
    rw [simpleTypeName, core, String.toList_append, Text.beforeFirst_append unapplied,
      beforeFirst_applied applies, List.append_nil, afterLast_qualified simple qualified,
      String.ofList_toList]

/-! ## The six names -/

private theorem names_iff {kind : Primitive} : Names name kind ↔ kind.name = name := by
  constructor
  · rintro (_ | _) <;> rfl
  · rintro rfl
    cases kind <;> constructor

private theorem name_simple (kind : Primitive) : Simple kind.name := by
  cases kind <;> exact ⟨by decide, by decide, by decide, by decide⟩

/-- A type is of a kind just when it is spelled with the name of the kind. -/
theorem kind_iff {kind : Primitive} (named : Names name kind) :
    primitiveOf? declared = some kind ↔ Spelled name declared := by
  obtain rfl := names_iff.mp named
  rw [primitiveOf?_iff]
  constructor
  · intro left
    rw [← left]
    exact simpleTypeName_spelled declared
  · exact spelled_simpleTypeName (name_simple kind)

/-- Every text is classified by the one name of six that it is spelled with, and
counts as unsupported if there is none. -/
theorem types_classified (declared : String) : Classified declared := by
  refine ⟨fun name kind named => kind_iff named, ?_, ?_⟩
  · intro name kind other otherKind named otherNamed spelled again
    have first := spelled_simpleTypeName (names_iff.mp named ▸ name_simple kind) spelled
    have second := spelled_simpleTypeName (names_iff.mp otherNamed ▸ name_simple otherKind) again
    exact first.symm.trans second
  · constructor
    · intro unsupported name kind named spelled
      cases unsupported.symm.trans ((kind_iff named).mpr spelled)
    · intro unspelled
      cases found : primitiveOf? declared with
      | none => rfl
      | some kind =>
        have named : Names kind.name kind := names_iff.mpr rfl
        exact absurd ((kind_iff named).mp found) (unspelled _ _ named)

/-- Marks, brackets and dots in a qualifier or in arguments are no matter, but a
bracket in front of the name is. -/
example : ["a?.b.Int<x.y?>?", "Int<", "Int??", "List<a.Int"].map primitiveOf? =
    [some .int, some .int, none, none] := by
  decide +kernel

end TypedRoutes.DeclaredTypes
