import Mathlib.Logic.Relation
import TypedRoutes.Proofs.PathPieces
import TypedRoutes.Proofs.RefusedDeclarations

/-! The source files that units depend on. Declarations name their files in any
spelling, and paths are compared by components. Of the files that are the same
in this sense only the one declared first is kept, and every unit of a pass
depends on all that are kept, whichever declaration it was rendered from. -/
namespace TypedRoutes.SourceFiles
open Files Path Pipeline Manifest PathPieces

/-- The files that declarations name, in order and as they are spelled. -/
def declaredFiles (manifest : Manifest) : List String :=
  manifest.declarations.filterMap (·.file)

/-- The first of some paths that is equal to a path by components, which need
not be spelled like it. -/
def Earliest (paths : List String) (path entry : String) : Prop :=
  ∃ before after, paths = before ++ entry :: after ∧ components entry = components path ∧
    ∀ other ∈ before, components other ≠ components path

/-- Paths without those that are equal by components to an earlier one. -/
structure Kept (paths kept : List String) : Prop where
  ordered : kept.Sublist paths
  apart : (kept.map components).Nodup
  earliest : ∀ path ∈ paths, ∃ entry ∈ kept, Earliest paths path entry

/-- A declaration that names no file, or one that is listed in some spelling. -/
def AddsNone (files : List String) (declaration : Declaration) : Prop :=
  ∀ file, declaration.file = some file → ∃ entry ∈ files, components entry = components file

/-- A manifest with one more declaration at its end. -/
def append (manifest : Manifest) (declaration : Declaration) : Manifest :=
  { manifest with declarations := manifest.declarations ++ [declaration] }

/-- The source files of a manifest and the units that depend on them. -/
structure Covered (manifest : Manifest) : Prop where
  ordered : manifest.sourceFiles.Sublist (declaredFiles manifest)
  apart : (manifest.sourceFiles.map components).Nodup
  /-- Every file has one entry, the earliest spelling of it. -/
  entry : ∀ declaration ∈ manifest.declarations, ∀ file, declaration.file = some file →
    ∃ entry ∈ manifest.sourceFiles, Earliest (declaredFiles manifest) file entry ∧
      ∀ other ∈ manifest.sourceFiles, components other = components file → other = entry
  /-- Without plugins the standard phases end with units that depend on the
  source files, and further phases start from there. This is so in any language,
  as every emitter makes its units by `Emitter.emit`. -/
  units : ∀ {σ : Type} (emitter : Emitter) (lints : List Lint) (phases : List (Phase σ)),
    ∃ context, runSteps ((standardPhases σ (.ofManifest manifest) lints emitter).flatMap
        (phaseSteps [])) (.initial (.ofManifest manifest)) = pure context ∧
      ({ emitter, lints, phases } : Generator σ).run (.ofManifest manifest) =
        runSteps (phases.flatMap (phaseSteps [])) context ∧
      ∀ unit ∈ context.units, unit.dependencies = ⟨manifest.sourceFiles, true⟩
  appended : ∀ declaration, AddsNone manifest.sourceFiles declaration →
    (append manifest declaration).sourceFiles = manifest.sourceFiles

/-! ## Spellings -/

/-- Ways to write a path longer that do not lead elsewhere. A dot in front of a
relative path, or a step up, is none of these. -/
inductive Respelled : String → String → Prop where
  /-- An empty piece or a dot between two separators. -/
  | idle (front rest : String) {piece : String} (idle : piece = "" ∨ piece = ".") :
      Respelled (front ++ "/" ++ rest) (front ++ "/" ++ piece ++ "/" ++ rest)
  | trailing {path : String} (nonempty : path ≠ "") : Respelled path (path ++ "/")

section Spellings
variable {path other first : String} {rest : List String}

private theorem components_nonempty (nonempty : path ≠ "") (split : pieces path = first :: rest) :
    components path = (if first = "" then "/" else first) :: rest.filter (!isIdle ·) := by
  cases rest with
  | nil =>
    have text : path = first := by
      rw [← intercalate_pieces path, split, String.intercalate_singleton]
    have relative : isAbsolute path = false := by
      rw [Bool.eq_false_iff, Ne, isAbsolute_iff, split]
      simp
    subst text
    simp [components, split, relative, nonempty]
  | cons second rest =>
    simp only [components, split, isAbsolute_pieces split (List.cons_ne_nil _ _)]
    by_cases absolute : first = "" <;> simp [absolute]

private theorem pieces_trailing (path : String) : pieces (path ++ "/") = pieces path ++ [""] := by
  have divided := pieces_divided path ""
  rwa [String.append_empty, show pieces "" = [""] by decide] at divided

private theorem Respelled.components_eq (respelled : Respelled path other) :
    components path = components other := by
  cases respelled with
  | @idle front rest piece idle =>
    obtain ⟨first, inner, split⟩ := List.exists_cons_of_ne_nil (pieces_ne_nil front)
    have short : pieces (front ++ "/" ++ rest) = first :: (inner ++ pieces rest) := by
      rw [pieces_divided, split, List.cons_append]
    have undivided : '/' ∉ piece.toList := by
      rcases idle with rfl | rfl <;> decide
    have long : pieces (front ++ "/" ++ piece ++ "/" ++ rest) =
        first :: (inner ++ piece :: pieces rest) := by
      rw [pieces_divided, pieces_divided, split, pieces_undivided undivided]
      simp
    rw [components_nonempty (by simp) long, components_nonempty (by simp) short]
    rcases idle with rfl | rfl <;> simp [isIdle]
  | trailing nonempty =>
    obtain ⟨first, rest, split⟩ := List.exists_cons_of_ne_nil (pieces_ne_nil path)
    have longer : pieces (path ++ "/") = first :: (rest ++ [""]) := by
      rw [pieces_trailing, split, List.cons_append]
    rw [components_nonempty nonempty split, components_nonempty (by simp) longer]
    simp [isIdle]

private theorem idle_respelled {front : List String} (some : front ≠ []) (rest : List String) :
    Relation.EqvGen Respelled ("/".intercalate (front ++ rest.filter (!isIdle ·) ++ [""]))
      ("/".intercalate (front ++ rest ++ [""])) := by
  induction rest generalizing front with
  | nil => exact .refl _
  | cons piece rest ih =>
    by_cases idle : isIdle piece = true
    · have short : "/".intercalate (front ++ rest ++ [""]) =
          "/".intercalate front ++ "/" ++ "/".intercalate (rest ++ [""]) := by
        rw [List.append_assoc, String.intercalate_append_of_ne_nil some (by simp)]
      have long : "/".intercalate (front ++ piece :: rest ++ [""]) =
          "/".intercalate front ++ "/" ++ piece ++ "/" ++ "/".intercalate (rest ++ [""]) := by
        rw [List.append_assoc, List.cons_append, String.intercalate_append_of_ne_nil some (by simp),
          String.intercalate_cons_of_ne_nil (by simp), ← String.append_assoc, ← String.append_assoc]
      have step : Respelled ("/".intercalate (front ++ rest ++ [""]))
          ("/".intercalate (front ++ piece :: rest ++ [""])) := by
        rw [short, long]
        exact .idle _ _ (by simpa [isIdle] using idle)
      have shorter := ih some
      rw [List.filter_cons_of_neg (by simp [idle])]
      exact shorter.trans _ _ _ (.rel _ _ step)
    · have further : front ++ [piece] ≠ [] := by simp
      have longer := ih further
      rw [List.filter_cons_of_pos (by simpa using idle)]
      simpa using longer

/-- A path is a respelling of its pieces that count, with a trailing separator.
Every path is brought to this form. -/
theorem pieces_respelled (nonempty : path ≠ "") (split : pieces path = first :: rest) :
    Relation.EqvGen Respelled
      ("/".intercalate (first :: rest.filter (!isIdle ·) ++ [""])) path := by
  have inserted := idle_respelled (List.cons_ne_nil first []) rest
  have ended : "/".intercalate ([first] ++ rest ++ [""]) = path ++ "/" := by
    rw [List.singleton_append, ← split, ← pieces_trailing, intercalate_pieces]
  rw [ended] at inserted
  exact inserted.trans _ _ _ (.symm _ _ (.rel _ _ (.trailing nonempty)))

private theorem same_pieces {otherFirst : String} {otherRest : List String} (nonempty : path ≠ "")
    (split : pieces path = first :: rest) (otherNonempty : other ≠ "")
    (otherSplit : pieces other = otherFirst :: otherRest)
    (same : components path = components other) :
    first = otherFirst ∧ rest.filter (!isIdle ·) = otherRest.filter (!isIdle ·) := by
  have undivided : first ≠ "/" := by
    rintro rfl
    have member : "/" ∈ pieces path := by simp [split]
    exact piece_undivided member (by decide)
  have otherUndivided : otherFirst ≠ "/" := by
    rintro rfl
    have member : "/" ∈ pieces other := by simp [otherSplit]
    exact piece_undivided member (by decide)
  rw [components_nonempty nonempty split, components_nonempty otherNonempty otherSplit,
    List.cons.injEq] at same
  refine ⟨?_, same.2⟩
  have heads := same.1
  -- A separator stands for the root, and no piece is one.
  split at heads <;> split at heads
  · simp_all
  · exact absurd heads.symm otherUndivided
  · exact absurd heads undivided
  · exact heads

private theorem components_empty : components path = [] ↔ path = "" := by
  constructor
  · intro empty
    by_contra nonempty
    obtain ⟨first, rest, split⟩ := List.exists_cons_of_ne_nil (pieces_ne_nil path)
    rw [components_nonempty nonempty split] at empty
    cases empty
  · rintro rfl
    decide

/-- Paths are equal by components just when one can be rewritten to the
other. -/
theorem components_eq_iff :
    components path = components other ↔ Relation.EqvGen Respelled path other := by
  constructor
  · intro same
    have blank : path = "" ↔ other = "" := by
      rw [← components_empty, same, components_empty]
    by_cases nonempty : path = ""
    · rw [nonempty, blank.mp nonempty]
      exact .refl _
    have otherNonempty : other ≠ "" := blank.not.mp nonempty
    obtain ⟨first, rest, split⟩ := List.exists_cons_of_ne_nil (pieces_ne_nil path)
    obtain ⟨otherFirst, otherRest, otherSplit⟩ := List.exists_cons_of_ne_nil (pieces_ne_nil other)
    obtain ⟨rfl, active⟩ := same_pieces nonempty split otherNonempty otherSplit same
    have spelled := pieces_respelled nonempty split
    rw [active] at spelled
    exact (spelled.symm _ _).trans _ _ _ (pieces_respelled otherNonempty otherSplit)
  · intro respelled
    induction respelled with
    | rel _ _ step => exact step.components_eq
    | refl _ => rfl
    | symm _ _ _ ih => exact ih.symm
    | trans _ _ _ _ _ first second => exact first.trans second

end Spellings

/-! ## Keeping the first of each -/

section Keeping
variable {paths kept : List String} {last : String}

private theorem Earliest.components_eq {path entry : String}
    (earliest : Earliest paths path entry) :
    components entry = components path := by
  obtain ⟨before, after, -, same, -⟩ := earliest
  exact same

private theorem Earliest.append {path entry : String} (earliest : Earliest paths path entry)
    (more : List String) : Earliest (paths ++ more) path entry := by
  obtain ⟨before, after, rfl, same, others⟩ := earliest
  exact ⟨before, after ++ more, by simp, same, others⟩

/-- The earliest entry for a path is the one for its other spellings. -/
theorem Earliest.respelled {path other entry : String} (earliest : Earliest paths path entry)
    (same : components path = components other) : Earliest paths other entry := by
  obtain ⟨before, after, split, own, others⟩ := earliest
  exact ⟨before, after, split, own.trans same, fun path member => same ▸ others path member⟩

/-- A path in another spelling is passed over, and the entries stay those of the
paths so far. -/
theorem Kept.pass (keeps : Kept paths kept)
    (known : ∃ entry ∈ kept, components entry = components last) : Kept (paths ++ [last]) kept := by
  refine ⟨keeps.ordered.trans (List.sublist_append_left _ _), keeps.apart, fun path member => ?_⟩
  rcases List.mem_append.mp member with inside | final
  · obtain ⟨entry, listed, earliest⟩ := keeps.earliest path inside
    exact ⟨entry, listed, earliest.append _⟩
  · obtain ⟨entry, listed, same⟩ := known
    obtain ⟨first, firstListed, earliest⟩ :=
      keeps.earliest entry (keeps.ordered.subset listed)
    rw [List.mem_singleton.mp final]
    exact ⟨first, firstListed, (earliest.respelled same).append _⟩

/-- A path without an entry becomes one, in its own spelling. -/
theorem Kept.add (keeps : Kept paths kept)
    (new : ∀ entry ∈ kept, components entry ≠ components last) :
    Kept (paths ++ [last]) (kept ++ [last]) := by
  have unseen : ∀ path ∈ paths, components path ≠ components last := by
    intro path member same
    obtain ⟨entry, listed, earliest⟩ := keeps.earliest path member
    exact new entry listed (earliest.components_eq.trans same)
  refine ⟨keeps.ordered.append_right _, ?_, fun path member => ?_⟩
  · rw [List.map_append, List.map_singleton, List.nodup_append]
    refine ⟨keeps.apart, List.nodup_singleton _, ?_⟩
    intro own listed added final same
    obtain ⟨entry, member, rfl⟩ := List.mem_map.mp listed
    exact new entry member (same.trans (List.mem_singleton.mp final))
  · rcases List.mem_append.mp member with inside | final
    · obtain ⟨entry, listed, earliest⟩ := keeps.earliest path inside
      exact ⟨entry, List.mem_append_left _ listed, earliest.append _⟩
    · rw [List.mem_singleton.mp final]
      exact ⟨last, by simp, paths, [], rfl, rfl, unseen⟩

private theorem any_same : kept.any (same last) = true ↔
    ∃ entry ∈ kept, components entry = components last := by
  simp only [List.any_eq_true, same, beq_iff_eq]
  exact exists_congr fun entry => and_congr_right' eq_comm

private theorem distinct_concat (paths : List String) (last : String) :
    distinct (paths ++ [last]) =
      if (distinct paths).any (same last) then distinct paths else distinct paths ++ [last] := by
  rw [distinct, List.foldl_append]
  rfl

/-- The loop keeps the first spelling of every path. -/
theorem distinct_kept (paths : List String) : Kept paths (distinct paths) := by
  induction paths using List.reverseRecOn with
  | nil => exact ⟨.slnil, .nil, by simp⟩
  | append_singleton paths last ih =>
    rw [distinct_concat]
    split
    · rename_i known
      exact ih.pass (any_same.mp known)
    · rename_i new
      exact ih.add fun entry listed same => new (any_same.mpr ⟨entry, listed, same⟩)

private theorem Kept.single (keeps : Kept paths kept) {entry other : String} (listed : entry ∈ kept)
    (otherListed : other ∈ kept) (same : components other = components entry) : other = entry :=
  List.inj_on_of_nodup_map keeps.apart otherListed listed same

end Keeping

/-! ## Manifests -/

section Manifests
variable (manifest : Manifest)

private theorem sourceFiles_kept : Kept (declaredFiles manifest) manifest.sourceFiles :=
  distinct_kept _

private theorem file_entry {declaration : Declaration}
    (member : declaration ∈ manifest.declarations)
    {file : String} (named : declaration.file = some file) :
    ∃ entry ∈ manifest.sourceFiles, Earliest (declaredFiles manifest) file entry ∧
      ∀ other ∈ manifest.sourceFiles, components other = components file → other = entry := by
  have keeps := sourceFiles_kept manifest
  have declared : file ∈ declaredFiles manifest :=
    List.mem_filterMap.mpr ⟨declaration, member, named⟩
  obtain ⟨entry, listed, earliest⟩ := keeps.earliest file declared
  exact ⟨entry, listed, earliest, fun other otherListed same =>
    keeps.single listed otherListed (same.trans earliest.components_eq.symm)⟩

private theorem sourceFiles_appended {declaration : Declaration}
    (none : AddsNone manifest.sourceFiles declaration) :
    (append manifest declaration).sourceFiles = manifest.sourceFiles := by
  simp only [append, Manifest.sourceFiles, List.filterMap_append]
  cases named : declaration.file with
  | none => simp [named]
  | some file =>
    have known := any_same.mpr (none file named)
    rw [Manifest.sourceFiles] at known
    simp only [List.filterMap_cons, named, List.filterMap_nil]
    rw [distinct_concat, if_pos known]

private theorem settle_depends (lints : List Lint) (emitter : Emitter) :
    ∀ unit ∈ (settle (.ofManifest manifest) lints emitter).units,
      unit.dependencies = ⟨manifest.sourceFiles, true⟩ := by
  intro unit member
  rw [RefusedDeclarations.settle_emits] at member
  obtain ⟨descriptor, -, rfl⟩ := List.mem_map.mp member
  rfl

/-- For every manifest the source files are the declared ones, each in its
earliest spelling and once, and all units depend on them. Two spellings count as
one when repeated separators, dots between them and trailing separators lead
from one to the other. -/
theorem files_covered : Covered manifest ∧ ∀ path other : String,
    components path = components other ↔ Relation.EqvGen Respelled path other := by
  have keeps := sourceFiles_kept manifest
  have covered : Covered manifest := {
    ordered := keeps.ordered
    apart := keeps.apart
    entry := fun _ member _ named => file_entry manifest member named
    units := fun emitter lints _ =>
      ⟨settle (.ofManifest manifest) lints emitter, rfl, rfl, settle_depends manifest lints emitter⟩
    appended := fun _ => sourceFiles_appended manifest }
  exact ⟨covered, fun _ _ => components_eq_iff⟩

end Manifests

/-- Separators, dots between them and a trailing one are no matter, but a
leading dot and the directory above are. -/
example : distinct ["a/b", "./a/b", "a//b", "c/../a/b", "a/./b/", "./a/b/.", "/a/b", "//a/b"] =
    ["a/b", "./a/b", "c/../a/b", "/a/b"] := by
  decide +kernel

end TypedRoutes.SourceFiles
