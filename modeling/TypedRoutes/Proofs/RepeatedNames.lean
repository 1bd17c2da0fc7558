import TypedRoutes.Proofs.NameSpans

/-! Names that are declared again. The label of the error is meant for the last
place that declares the name, but it is found by the spelling of the assignment
first and by its place second. So it is on the last assignment unless one
without spaces comes after all those with spaces. -/
namespace TypedRoutes.RepeatedNames
open Manifest Kotlin SoundManifests UsableNames NameSpans

/-- The places where a name is assigned, in either spelling. -/
def assignments (name source : String) : Set Nat :=
  places (spacedAssignment name) source ∪ places (tightAssignment name) source

/-- Where the label of a repeated name is, compared with its assignments. -/
structure Labelled (source name : String) (span : Span) : Prop where
  located : Located IsGreatest source name span
  /-- What is missed is an assignment in the other spelling. -/
  missed : (∃ position ∈ assignments name source, span.offset < position) ↔
    ∃ last, IsGreatest (places (spacedAssignment name) source) last ∧
      ∃ position ∈ places (tightAssignment name) source, last < position
  /-- When none is missed, the label is on the name in the last assignment. -/
  marked : (∀ position ∈ assignments name source, position ≤ span.offset) →
    ∀ last, IsGreatest (assignments name source) last →
      last ∈ places (spacedAssignment name) source ∧ span.offset = last + 8 ∨
        last ∈ places (tightAssignment name) source ∧ span.offset = last + 6

/-! ## Checks for repetition -/

/-- A check that takes only usable names for repeated, and points at the last
place of the name. It says nothing of other errors. -/
def Repeats (source : String) (result : Except Error Unit) : Prop :=
  ∀ file name context span, result = .error (.duplicate file name context span) →
    isUsable name = true ∧ span = Span.last? source name

section Checks
variable {source : String} {scope : Scope}

private theorem repeats_ok : Repeats source (.ok ()) := by
  intro file name context span failed
  cases failed

/-- The second of two checks may count on the first one having passed. -/
theorem Repeats.append {first second : Except Error Unit} (early : Repeats source first)
    (late : first = .ok () → Repeats source second) :
    Repeats source (first >>= fun _ => second) := by
  intro file name context span failed
  cases first with
  | error error => exact early file name context span failed
  | ok done => exact late rfl file name context span failed

private theorem checkName_repeats (name kind : String) :
    Repeats source (scope.checkName name kind) := by
  intro file other context span failed
  unfold Scope.checkName at failed
  split at failed
  · cases failed
  · split at failed <;> cases failed

private theorem refusal_repeats {name kind : String} {condition : Prop} [Decidable condition]
    {rest : Except Error Unit} (usable : isUsable name = true)
    (next : Repeats scope.source rest) :
    Repeats scope.source
      (if condition then (throw (scope.repeated name kind) >>= fun _ : Unit => rest)
        else rest) := by
  split
  · intro file other context span failed
    cases failed
    exact ⟨usable, rfl⟩
  · exact next

private theorem checkPackage_repeats (package : String) :
    Repeats source (scope.checkPackage package) := by
  unfold Scope.checkPackage
  split
  · exact repeats_ok
  · induction Text.segments package with
    | nil => exact repeats_ok
    | cons segment rest ih => exact (checkName_repeats segment _).append fun _ => ih

private theorem checkProperties_repeats (scope : Scope) (seen : List String)
    (properties : List Manifest.Property) :
    Repeats scope.source (scope.checkProperties seen properties) := by
  induction properties generalizing seen with
  | nil => exact repeats_ok
  | cons property rest ih =>
    exact (checkName_repeats property.name _).append fun passed =>
      refusal_repeats (checkName_ok.mp passed) (ih _)

private theorem checkDeclarations_repeats (scope : Scope) (seen : List String)
    (declarations : List Declaration) :
    Repeats scope.source (scope.checkDeclarations seen declarations) := by
  induction declarations generalizing seen with
  | nil => exact repeats_ok
  | cons declaration rest ih =>
    refine (checkName_repeats declaration.name _).append fun passed =>
      refusal_repeats (checkName_ok.mp passed) ?_
    exact (checkPackage_repeats declaration.package).append fun _ =>
      (checkProperties_repeats (scope.nested declaration.name) [] _).append fun _ => ih _

private theorem validate_repeats (manifest : Manifest) (source file : String) :
    Repeats source (validate manifest source file) := by
  unfold validate
  dsimp only
  split
  · intro other name context span failed
    cases failed
  · exact (checkName_repeats _ _).append fun _ =>
      checkDeclarations_repeats { source, file } [] _

/-- So does reading a manifest: a name is only repeated once it has been found
usable. -/
theorem parse_repeats (source file : String) :
    ∀ other name context span, parse source file = .error (.duplicate other name context span) →
      isUsable name = true ∧ span = Span.last? source name := by
  intro other name context span refused
  unfold parse at refused
  split at refused
  · cases refused
  · rename_i manifest decoded
    cases checked : validate manifest source file with
    | ok => rw [checked] at refused; cases refused
    | error error =>
      rw [checked] at refused
      cases refused
      exact validate_repeats manifest source file other name context span checked

end Checks

/-! ## Assignments beside each other -/

section Assignments
variable {source name : String} {span : Span} {position last : Nat}

/-- A pattern that stands further on begins within or behind the one before
it. -/
theorem places_ordered {pattern other : String} (some : pattern ≠ "") (otherSome : other ≠ "")
    (here : last ∈ places pattern source) (there : position ∈ places other source)
    (behind : last < position) :
    ∃ between after rest : List Char, pattern.toList ++ after = between ++ (other.toList ++ rest) ∧
      0 < between.length ∧ last + between.length ≤ position := by
  obtain ⟨before, after, split, rfl⟩ := (mem_places some).mp here
  obtain ⟨front, rest, splitAgain, rfl⟩ := (mem_places otherSome).mp there
  rw [split, List.append_assoc, List.append_assoc] at splitAgain
  rcases List.append_eq_append_iff.mp splitAgain with ⟨between, rfl, same⟩ | ⟨between, rfl, same⟩
  · have short := Text.length_le_byteLength between
    rw [Text.byteLength_append] at behind ⊢
    refine ⟨between, after, rest, same, List.length_pos_iff.mpr ?_, by omega⟩
    rintro rfl
    exact absurd behind (Nat.lt_irrefl _)
  · rw [Text.byteLength_append] at behind
    omega

/-- No quote or sign stands in a usable name, so it is not taken for an
assignment. -/
theorem name_unassigned (usable : isUsable name = true) (after rest : List Char) :
    name.toList ++ '"' :: after ≠ 'n' :: 'a' :: 'm' :: 'e' :: '=' :: rest := by
  intro same
  have plain : ∀ c ∈ name.toList, (c != '=' && c != '"') = true := by
    intro c member
    have identifier := usable_identifier usable
    rw [Bool.and_eq_true, bne_iff_ne, bne_iff_ne]
    constructor
    · rintro rfl
      exact identifier_excludes '=' identifier (by decide) member
    · rintro rfl
      exact identifier_excludes '"' identifier (by decide) member
  have ends := congrArg (List.dropWhile fun c => c != '=' && c != '"') same
  rw [List.dropWhile_append_of_pos plain] at ends
  simp at ends

/-- An assignment without spaces never begins inside of one with spaces, so the
two searches can be compared by their places. -/
theorem assignments_apart (usable : isUsable name = true)
    (spaced : last ∈ places (spacedAssignment name) source)
    (tight : position ∈ places (tightAssignment name) source) (behind : last < position) :
    last + 8 < position := by
  obtain ⟨between, after, rest, same, apart, short⟩ :=
    places_ordered (by simp [spacedAssignment]) (by simp [tightAssignment]) spaced tight behind
  have spelled : (spacedAssignment name).toList ++ after =
      ['n', 'a', 'm', 'e', ' ', '=', ' ', '"'] ++ (name.toList ++ '"' :: after) := by
    simp [spacedAssignment, inQuotes]
  have spelledTight : (tightAssignment name).toList ++ rest =
      'n' :: 'a' :: 'm' :: 'e' :: '=' :: '"' :: (name.toList ++ '"' :: rest) := by
    simp [tightAssignment, inQuotes]
  rw [spelled, spelledTight] at same
  by_contra close
  have few : between.length ≤ 8 := by omega
  rcases Nat.lt_or_eq_of_le few with fewer | eight
  · -- In front of the name only the first letter is the letter that assignments begin with.
    have letter := congrArg (·[between.length]?) same
    have once : ∀ index < 8, 0 < index →
        ['n', 'a', 'm', 'e', ' ', '=', ' ', '"'][index]? ≠ some 'n' := by decide
    rw [List.getElem?_append_left (by simpa using fewer),
      List.getElem?_append_right (Nat.le_refl _), Nat.sub_self] at letter
    exact once between.length fewer apart letter
  · exact name_unassigned usable after _ (List.append_inj same eight.symm).2

/-- How the last place of a usable name lies to its assignments. -/
theorem located_labelled (usable : isUsable name = true)
    (located : Located IsGreatest source name span) : Labelled source name span := by
  refine ⟨located, ?_, ?_⟩
  · cases located with
    | @spaced position found =>
      constructor
      · rintro ⟨other, assigned, behind⟩
        have behind : position + 8 < other := behind
        rcases assigned with spaced | tight
        · have upper := found.2 spaced
          omega
        · exact ⟨position, found, other, tight, by omega⟩
      · rintro ⟨last, greatest, other, tight, behind⟩
        rw [greatest.unique found] at behind
        exact ⟨other, .inr tight, assignments_apart usable found.1 tight behind⟩
    | @tight position noSpaced found =>
      rw [assignments, noSpaced, Set.empty_union]
      refine iff_of_false ?_ (by simp [IsGreatest])
      rintro ⟨other, tight, behind⟩
      have behind : position + 6 < other := behind
      have upper := found.2 tight
      omega
    | quoted noSpaced noTight =>
      simp [assignments, noSpaced, noTight, IsGreatest]
  · intro unmissed last greatest
    cases located with
    | @spaced position found =>
      have near : last ≤ position + 8 := unmissed last greatest.1
      have upper := greatest.2 (.inl found.1)
      -- What is that near and no further back is the assignment that was found.
      have same : last = position := by
        rcases greatest.1 with spaced | tight
        · have lower := found.2 spaced
          omega
        · by_contra other
          have far := assignments_apart usable found.1 tight (by omega)
          omega
      exact .inl ⟨same ▸ found.1, by rw [same]⟩
    | tight noSpaced found =>
      rw [assignments, noSpaced, Set.empty_union] at greatest
      exact .inr ⟨greatest.1, by rw [greatest.unique found]⟩
    | quoted noSpaced noTight =>
      simp [assignments, noSpaced, noTight, IsGreatest] at greatest

end Assignments

/-- Whatever text is refused for a repeated name, the label that its error has is
in front of an assignment of the name exactly when one without spaces comes
after all those with spaces, and otherwise on the last assignment there is. -/
theorem repeated_label_placed {source file other name context : String} {span : Span}
    (refused : parse source file = .error (.duplicate other name context (some span))) :
    Labelled source name span := by
  obtain ⟨usable, placed⟩ := parse_repeats source file other name context (some span) refused
  exact located_labelled usable ((locate_some last_finds).mp placed.symm)

private theorem parse_refused {manifest : Manifest} {source file : String} {error : Error}
    (decoded : decode? source = some manifest)
    (failed : validate manifest source file = .error error) :
    parse source file = .error error := by
  unfold parse
  rw [decoded]
  exact congrArg (· >>= fun _ => .ok manifest) failed

/-- Two declarations of one name, the first one without spaces. -/
def tightFirst : String :=
  "[[declaration]]\nname=\"Home\"\n\n[[declaration]]\nname = \"Home\"\n"

private theorem tightFirst_refused : parse tightFirst "wayfinder.toml" =
    .error (.duplicate "wayfinder.toml" "Home" "declaration" (some ⟨53, 4⟩)) :=
  parse_refused (by cbv) (by rfl)

theorem repeated_label_placed_tightFirst :
    parse tightFirst "wayfinder.toml" =
      .error (.duplicate "wayfinder.toml" "Home" "declaration" (some ⟨53, 4⟩)) ∧
    Labelled tightFirst "Home" ⟨53, 4⟩ :=
  ⟨tightFirst_refused, repeated_label_placed tightFirst_refused⟩

/-- The same declarations with the spaces in the first one. -/
def spacedFirst : String :=
  "[[declaration]]\nname = \"Home\"\n\n[[declaration]]\nname=\"Home\"\n"

private theorem spacedFirst_refused : parse spacedFirst "wayfinder.toml" =
    .error (.duplicate "wayfinder.toml" "Home" "declaration" (some ⟨24, 4⟩)) :=
  parse_refused (by cbv) (by rfl)

/-- The label of a repeated name can be in front of its last assignment. -/
theorem last_assignment_missed : ¬ ∀ source file other name context span,
    parse source file = .error (.duplicate other name context (some span)) →
      ∀ position ∈ assignments name source, position ≤ span.offset := by
  intro unmissed
  have stands : 47 ∈ places (tightAssignment "Home") spacedFirst :=
    (mem_places (by decide)).mpr
      ⟨spacedFirst.toList.take 47, ['\n'], by decide, by decide⟩
  exact absurd (unmissed _ _ _ _ _ _ spacedFirst_refused 47 (.inr stands)) (by decide)

end TypedRoutes.RepeatedNames
