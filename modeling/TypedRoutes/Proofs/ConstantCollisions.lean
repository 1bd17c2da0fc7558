import Mathlib.Data.Finset.Card
import TypedRoutes.Kotlin.Unit
import TypedRoutes.Pipeline.Lint

/-! Fields that declare a constant again. The emitter makes a constant of every
field without a look at the others. The lint goes over the fields once, with a
table that has the first field of every constant so far, and warns where a
constant is in the table already. So its warnings are as many as the constants
that are left over when each of them is counted once. -/
namespace TypedRoutes.ConstantCollisions
open Pipeline Kotlin Route

/-- The names of the constants that the object of a descriptor declares. They
are read off the emitted object and not off the lint. -/
def constants (container : Container) (descriptor : Descriptor) : List String :=
  (routeObject container descriptor).properties.map (·.name)

/-- The field at a place has the uppercased name of one before it. The first
field with a name repeats nothing. -/
def Repeats (fields : List Field) (place : ℕ) : Prop :=
  ∃ field, fields[place]? = some field ∧
    ∃ earlier ∈ fields.take place, Text.upper earlier.name = Text.upper field.name

/-- The first field with an uppercased name, which keeps the constant to itself
when others follow. -/
def FirstOf (fields : List Field) (constant : String) (first : Field) : Prop :=
  ∃ before after, fields = before ++ first :: after ∧ Text.upper first.name = constant ∧
    ∀ other ∈ before, Text.upper other.name ≠ constant

/-- The warning on a field whose constant an earlier field was first to have. It
names both fields, and is located at the later one. -/
structure WarnsOf (source : DeclarationId) (first field : Field) (warning : Diagnostic) :
    Prop where
  severity : warning.severity = .warning
  phase : warning.phase = lintPhase
  location : warning.location = some (source.qualified ++ "." ++ field.name)
  message : warning.message = "fields '" ++ first.name ++ "' and '" ++ field.name ++
    "' both declare constant '" ++ Text.upper field.name ++ "'"

/-- A warning on the field at a place, with the first field of its constant. -/
def WarnsAt (descriptor : Descriptor) (warning : Diagnostic) (place : ℕ) : Prop :=
  ∃ first field, descriptor.fields[place]? = some field ∧
    FirstOf (descriptor.fields.take place) (Text.upper field.name) first ∧
    WarnsOf descriptor.source first field warning

/-- The warnings on a descriptor, held against the constants of its code: where
there is one, what it says, and how many there are. -/
structure Predicts (container : Container) (warnings : List Diagnostic) (descriptor : Descriptor) :
    Prop where
  /-- There is one for every place that repeats a constant, in the order of places. -/
  reported : ∃ places : List ℕ, places.Pairwise (· < ·) ∧
    (∀ place, place ∈ places ↔ Repeats descriptor.fields place) ∧
    List.Forall₂ (WarnsAt descriptor) warnings places
  /-- No constants are declared outside the object, because the emitted code holds nothing else. -/
  whole : (routeFile container descriptor).body = [[(routeObject container descriptor).fragment]]
  declared : constants container descriptor =
    descriptor.fields.map fun field => Text.upper field.name
  counted : warnings.length + (constants container descriptor).toFinset.card =
    descriptor.fields.length
  silent : warnings = [] ↔ (constants container descriptor).Nodup

/-! ## The table -/

/-- The table behind some fields: under every constant of theirs is the name of
the first field that has it. This is what the scan keeps from field to field. -/
def Table (earlier : List Field) (taken : List (String × String)) : Prop :=
  ∀ constant, taken.lookup constant = (earlier.find? (constantName · == constant)).map (·.name)

variable {earlier rest : List Field} {field : Field} {taken : List (String × String)}

private theorem firstOf_iff {constant : String} {first : Field} :
    FirstOf earlier constant first ↔
      earlier.find? (constantName · == constant) = some first := by
  simp only [List.find?_eq_some_iff_append, FirstOf, constantName, beq_iff_eq, Bool.not_eq_true',
    beq_eq_false_iff_ne]
  constructor
  · rintro ⟨before, after, split, own, others⟩
    exact ⟨own, before, after, split, others⟩
  · rintro ⟨own, before, after, split, others⟩
    exact ⟨before, after, split, own, others⟩

private theorem Table.held {constant name : String} (table : Table earlier taken)
    (found : taken.lookup constant = some name) :
    ∃ first, FirstOf earlier constant first ∧ first.name = name := by
  rw [table constant, Option.map_eq_some_iff] at found
  obtain ⟨first, isFirst, named⟩ := found
  exact ⟨first, firstOf_iff.mpr isFirst, named⟩

private theorem Table.fresh {constant : String} (table : Table earlier taken)
    (missing : taken.lookup constant = none) :
    ∀ other ∈ earlier, Text.upper other.name ≠ constant := by
  rw [table constant, Option.map_eq_none_iff, List.find?_eq_none] at missing
  intro other member same
  exact missing other member (beq_iff_eq.mpr same)

/-- A field with a constant of its own gets an entry, and the table stays one
for the fields so far. -/
theorem Table.enter (table : Table earlier taken)
    (missing : taken.lookup (constantName field) = none) :
    Table (earlier ++ [field]) ((constantName field, field.name) :: taken) := by
  intro constant
  rw [List.lookup_cons, List.find?_append]
  by_cases own : constant = constantName field
  · subst own
    have absent := table (constantName field)
    rw [missing, eq_comm, Option.map_eq_none_iff] at absent
    simp [absent]
  · have unequal : (constant == constantName field) = false := beq_eq_false_iff_ne.mpr own
    have other : (constantName field == constant) = false := beq_eq_false_iff_ne.mpr (Ne.symm own)
    simp [unequal, other, table constant]

/-- A field that repeats a constant leaves the first one in its place, so a
third field is told of the first and not of the second. -/
theorem Table.keep {name : String} (table : Table earlier taken)
    (found : taken.lookup (constantName field) = some name) : Table (earlier ++ [field]) taken := by
  intro constant
  rw [table constant, List.find?_append]
  by_cases own : constant = constantName field
  · subst own
    rw [table (constantName field), Option.map_eq_some_iff] at found
    obtain ⟨first, isFirst, -⟩ := found
    rw [isFirst, Option.some_or]
  · have other : (constantName field == constant) = false := beq_eq_false_iff_ne.mpr (Ne.symm own)
    simp [other]

/-! ## The scan -/

private theorem constantTaken_warns (source : DeclarationId) (first : Field) :
    WarnsOf source first field (constantTaken source first.name field) :=
  ⟨rfl, rfl, rfl, rfl⟩

private theorem repeats_here : Repeats (earlier ++ field :: rest) earlier.length ↔
    ∃ other ∈ earlier, Text.upper other.name = Text.upper field.name := by
  simp [Repeats]

private theorem repeats_within {fields : List Field} {place : ℕ} (repeated : Repeats fields place) :
    place < fields.length := by
  obtain ⟨field, here, -⟩ := repeated
  exact (List.getElem?_eq_some_iff.mp here).1

/-- The warnings on the fields from a place on: one for each place that repeats
a constant, in order. -/
def ReportedFrom (descriptor : Descriptor) (start : ℕ) (warnings : List Diagnostic) : Prop :=
  ∃ places : List ℕ, places.Pairwise (· < ·) ∧
    (∀ place, place ∈ places ↔ start ≤ place ∧ Repeats descriptor.fields place) ∧
    List.Forall₂ (WarnsAt descriptor) warnings places

section Scan
variable {descriptor : Descriptor} {warnings : List Diagnostic} {start : ℕ}

private theorem reported_end : ReportedFrom descriptor descriptor.fields.length [] := by
  refine ⟨[], .nil, fun place => ?_, .nil⟩
  simp only [List.not_mem_nil, false_iff, not_and]
  intro behind repeated
  exact absurd (repeats_within repeated) (Nat.not_lt.mpr behind)

/-- A field with a constant of its own brings no warning. -/
theorem ReportedFrom.skip (later : ReportedFrom descriptor (start + 1) warnings)
    (single : ¬ Repeats descriptor.fields start) : ReportedFrom descriptor start warnings := by
  obtain ⟨places, increasing, each, warned⟩ := later
  refine ⟨places, increasing, fun place => ?_, warned⟩
  rw [each]
  constructor
  · rintro ⟨behind, repeated⟩
    exact ⟨by omega, repeated⟩
  · rintro ⟨behind, repeated⟩
    rcases Nat.eq_or_lt_of_le behind with rfl | beyond
    · exact absurd repeated single
    · exact ⟨beyond, repeated⟩

/-- A field that repeats a constant brings one, in front of those on later
fields. -/
theorem ReportedFrom.warn {warning : Diagnostic}
    (later : ReportedFrom descriptor (start + 1) warnings)
    (again : Repeats descriptor.fields start) (warns : WarnsAt descriptor warning start) :
    ReportedFrom descriptor start (warning :: warnings) := by
  obtain ⟨places, increasing, each, warned⟩ := later
  refine ⟨start :: places, .cons ?_ increasing, fun place => ?_, .cons warns warned⟩
  · intro place member
    exact ((each place).mp member).1
  · rw [List.mem_cons, each]
    constructor
    · rintro (rfl | ⟨behind, repeated⟩)
      · exact ⟨le_rfl, again⟩
      · exact ⟨by omega, repeated⟩
    · rintro ⟨behind, repeated⟩
      rcases Nat.eq_or_lt_of_le behind with rfl | beyond
      · exact .inl rfl
      · exact .inr ⟨beyond, repeated⟩

/-- From any point on, the scan warns at the places that repeat a constant. Of
the fields before that point it knows the table only. -/
theorem scan_reports (split : descriptor.fields = earlier ++ rest) (table : Table earlier taken) :
    ReportedFrom descriptor earlier.length (collisions descriptor.source taken rest) := by
  induction rest generalizing earlier taken with
  | nil =>
    rw [List.append_nil] at split
    rw [← split]
    exact reported_end
  | cons field rest ih =>
    have onward : descriptor.fields = (earlier ++ [field]) ++ rest := by simpa using split
    have here : Repeats descriptor.fields earlier.length ↔
        ∃ other ∈ earlier, Text.upper other.name = Text.upper field.name := by
      rw [split]
      exact repeats_here
    rw [collisions]
    cases found : taken.lookup (constantName field) with
    | none =>
      have later := ih onward (table.enter found)
      rw [List.length_append, List.length_singleton] at later
      refine later.skip ?_
      rw [here]
      rintro ⟨other, member, same⟩
      exact table.fresh found other member same
    | some name =>
      have later := ih onward (table.keep found)
      rw [List.length_append, List.length_singleton] at later
      obtain ⟨first, isFirst, rfl⟩ := table.held found
      refine later.warn ?_ ⟨first, field, ?_, ?_, constantTaken_warns descriptor.source first⟩
      · obtain ⟨before, after, rfl, same, -⟩ := isFirst
        exact here.mpr ⟨first, by simp, same⟩
      · simp [split]
      · rw [split, List.take_left]
        exact isFirst

end Scan

/-- From any point on, every field brings a warning or one more constant, so
warnings and distinct constants add up to the fields. -/
theorem scan_counts (source : DeclarationId) (table : Table earlier taken) :
    (collisions source taken rest).length + ((earlier ++ rest).map constantName).toFinset.card =
      rest.length + (earlier.map constantName).toFinset.card := by
  induction rest generalizing earlier taken with
  | nil => simp [collisions]
  | cons field rest ih =>
    have onward : earlier ++ field :: rest = (earlier ++ [field]) ++ rest := by simp
    have grown : ((earlier ++ [field]).map constantName).toFinset =
        insert (constantName field) (earlier.map constantName).toFinset := by
      ext constant
      simp [eq_comm]
    rw [collisions, onward]
    cases found : taken.lookup (constantName field) with
    | none =>
      have counted := ih (table.enter found)
      have fresh : constantName field ∉ (earlier.map constantName).toFinset := by
        rw [List.mem_toFinset, List.mem_map]
        rintro ⟨other, member, same⟩
        exact table.fresh found other member same
      rw [grown, Finset.card_insert_of_notMem fresh] at counted
      simp only [List.length_cons]
      omega
    | some name =>
      have counted := ih (table.keep found)
      obtain ⟨first, ⟨before, after, rfl, same, -⟩, -⟩ := table.held found
      have known : constantName field ∈
          ((before ++ first :: after).map constantName).toFinset := by
        rw [List.mem_toFinset, List.mem_map]
        exact ⟨first, by simp, same⟩
      rw [grown, Finset.insert_eq_of_mem known] at counted
      simp only [List.length_cons]
      omega

/-! ## Whole descriptors -/

/-- Every field has a constant of its own, named by its uppercased name. It is
declared even where the name is taken. -/
theorem constants_eq (container : Container) (descriptor : Descriptor) :
    constants container descriptor = descriptor.fields.map constantName := by
  rw [constants, routeObject, List.map_map]
  rfl

private theorem table_empty : Table [] [] :=
  fun _ => rfl

/-- The scan of one descriptor, from an empty table. -/
theorem scan_predicts (container : Container) (descriptor : Descriptor) :
    Predicts container (collisions descriptor.source [] descriptor.fields) descriptor := by
  have declared := constants_eq container descriptor
  have counted := @scan_counts [] descriptor.fields [] descriptor.source table_empty
  rw [List.nil_append, List.map_nil, List.toFinset_nil, Finset.card_empty, Nat.add_zero,
    ← declared] at counted
  obtain ⟨places, increasing, each, warned⟩ :=
    @scan_reports [] descriptor.fields [] descriptor rfl table_empty
  refine ⟨⟨places, increasing, ?_, warned⟩, routeFile_body container descriptor, declared,
    counted, ?_⟩
  · intro place
    simpa using each place
  · have size : (constants container descriptor).length = descriptor.fields.length := by
      rw [declared, List.length_map]
    have distinct : (constants container descriptor).toFinset.card =
        (constants container descriptor).length ↔ (constants container descriptor).Nodup :=
      @Multiset.toFinset_card_eq_card_iff_nodup _ _
        (Multiset.ofList (constants container descriptor))
    rw [← distinct, ← List.length_eq_zero_iff, size]
    omega

/-- For every list of descriptors the lint reports on one after the other, on
each of them what its own code declares again and nothing else. -/
theorem collisions_predicted (container : Container) (descriptors : List Descriptor) :
    ∃ reports : List (List Diagnostic), constantCollision.check descriptors = reports.flatten ∧
      List.Forall₂ (Predicts container) reports descriptors := by
  let report := fun descriptor : Descriptor => collisions descriptor.source [] descriptor.fields
  refine ⟨descriptors.map report, ?_, ?_⟩
  · exact List.flatMap_def
  · rw [List.forall₂_map_left_iff, List.forall₂_same]
    intro descriptor _
    exact scan_predicts container descriptor

/-- The first of three fields stays the one that the warnings name. -/
example : (constantCollision.check [{
    routeName := "town"
    source := ⟨"", "Town"⟩
    fields := ["straße", "size", "strasse", "STRASSE"].map fun name =>
      ⟨name, "Int", some .int, false⟩ }]).map (·.message) = [
      "fields 'straße' and 'strasse' both declare constant 'STRASSE'",
      "fields 'straße' and 'STRASSE' both declare constant 'STRASSE'"] := by
  decide +kernel

end TypedRoutes.ConstantCollisions
