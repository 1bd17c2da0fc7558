import Mathlib
import TypedRoutes.Kotlin.Unit
import TypedRoutes.Pipeline.Writer
import TypedRoutes.Proofs.PassPartition
import TypedRoutes.Proofs.PathPieces
import TypedRoutes.Proofs.SoundManifests
import TypedRoutes.Proofs.UsableNames

/-! Where the units of a pass go. Validation compares qualified names, while a
path is made of the segments of a package and a file name. The two agree on
which declarations are the same, because a usable name has no dot and is never
empty. -/
namespace TypedRoutes.UnitPaths
open Files Pipeline PathPieces SoundManifests UsableNames PassExecution PassOutcome

/-- The directories of a package. The default package has none. -/
def directoryNames (package : String) : List String :=
  if package = "" then [] else Text.segments package

/-- The name of the file of a declaration, which has a dot where the suffix
begins. -/
def fileName (name : String) : String :=
  name ++ "Destination.kt"

/-- The names that lead from an output directory to the unit of a
declaration. -/
def unitNames (id : Route.DeclarationId) : List String :=
  directoryNames id.package ++ [fileName id.name]

/-- A package can be read back from its directories. -/
theorem intercalate_directoryNames (package : String) :
    ".".intercalate (directoryNames package) = package := by
  unfold directoryNames
  split
  · rename_i default
    rw [default, String.intercalate_nil]
  · apply String.toList_inj.mp
    rw [String.toList_intercalate, Text.segments, List.map_map]
    simp

/-- Declarations with the same unit path are the same, so no unit takes the file
of another one. -/
theorem unitNames_injective : Function.Injective unitNames := by
  intro first second same
  obtain ⟨directories, file⟩ := List.append_inj' same rfl
  have package : first.package = second.package := by
    rw [← intercalate_directoryNames first.package, directories, intercalate_directoryNames]
  have name : first.name = second.name := by
    simp only [fileName, List.cons.injEq, and_true] at file
    exact String.append_left_inj _ |>.mp file
  cases first
  cases second
  simp_all

private theorem usable_undotted {name : String} (usable : Kotlin.isUsable name = true) :
    '.' ∉ name.toList :=
  identifier_excludes '.' (usable_identifier usable) (by decide)

private theorem usable_named {name : String} (usable : Kotlin.isUsable name = true) :
    Named name where
  nonempty := by
    rintro rfl
    exact identifier_nonempty (usable_identifier usable) rfl
  notHere := by
    rintro rfl
    exact usable_undotted usable (by decide)
  notAbove := by
    rintro rfl
    exact usable_undotted usable (by decide)
  undivided := identifier_excludes '/' (usable_identifier usable) (by decide)
  unbroken := identifier_excludes '\x00' (usable_identifier usable) (by decide)

theorem fileName_dotted (name : String) : '.' ∈ (fileName name).toList := by
  simp [fileName]

/-- A file name names an entry of a directory. As it has a dot it is never that
of a directory in a package. -/
theorem fileName_named {name : String} (usable : Kotlin.isUsable name = true) :
    Named (fileName name) := by
  have named := usable_named usable
  have long : 3 ≤ (fileName name).toList.length := by
    simp [fileName]
  refine ⟨?_, ?_, ?_, ?_, ?_⟩
  · intro same
    simp [same] at long
  · intro same
    simp [same] at long
  · intro same
    simp [same] at long
  · simp [fileName, named.undivided]
  · simp [fileName, named.unbroken]

/-- The directories of a usable package have usable names, and so no dots. -/
theorem directoryName_usable {package name : String} (usable : UsablePackage package)
    (member : name ∈ directoryNames package) : Kotlin.isUsable name = true := by
  unfold directoryNames at member
  split at member
  · cases member
  · rename_i named
    exact usable.resolve_left named name member

/-- The directory of a usable package holds every one of its segments. -/
theorem packageDirectory_names {package : String} (usable : UsablePackage package) :
    Text.packageDirectory package = "/".intercalate (directoryNames package) := by
  by_cases default : package = ""
  · subst default
    decide
  · have kept : (Text.segments package).filter (· != "") = Text.segments package := by
      apply List.filter_eq_self.mpr
      intro segment member
      simpa using (usable_named (usable.resolve_left default segment member)).nonempty
    rw [Text.packageDirectory, kept, directoryNames, if_neg default]

/-- The path of a file below a package is made of the package's segments and the
file. -/
theorem pieces_below_package {package file : String} (usable : UsablePackage package)
    (named : Named file) :
    Path.pieces (Path.join (Text.packageDirectory package) file) =
      directoryNames package ++ [file] := by
  have lone := pieces_undivided named.undivided
  have relative : Path.isAbsolute file = false :=
    named_relative (by simpa [lone] using named)
  have directories : ∀ name ∈ directoryNames package, Named name :=
    fun name member => usable_named (directoryName_usable usable member)
  rw [pieces_join _ relative, lone, packageDirectory_names usable]
  by_cases default : directoryNames package = []
  · rw [default, String.intercalate_nil, stem_empty]
  · have split := pieces_intercalate default fun name member => (directories name member).undivided
    rcases pieces_stem ("/".intercalate (directoryNames package)) with stemmed | stemmed
    · rw [← stemmed, split]
    · have last : "" ∈ directoryNames package := by
        rw [← split, stemmed]
        simp
      exact absurd rfl (directories "" last).nonempty

/-- A unit that lies where its declaration says, which has usable names. -/
structure Located (unit : GeneratedUnit) : Prop where
  package : UsablePackage unit.source.package
  name : Kotlin.isUsable unit.source.name = true
  pieces : Path.pieces unit.relativePath = unitNames unit.source

/-- Units of distinct declarations, each in its place. This is what writing them
relies on. -/
structure Placed (units : List GeneratedUnit) : Prop where
  distinct : (units.map (·.source)).Nodup
  located : ∀ unit ∈ units, Located unit

/-- No two declarations of a sound manifest have one identity. -/
theorem identities_distinct {manifest : Manifest} (sound : Sound manifest) :
    (manifest.declarations.map (·.id)).Nodup := by
  have named : manifest.declarations.map (·.qualifiedName) =
      (manifest.declarations.map (·.id)).map (·.qualified) := by
    rw [List.map_map]
    rfl
  exact List.Nodup.of_map _ (named ▸ sound.distinct)

/-- A unit comes from a discovered declaration, which alone decides its path. -/
theorem unit_declared {host : Host} {settings : Manifest.Settings} {container : Kotlin.Container}
    {marker : String} {unit : GeneratedUnit}
    (member : unit ∈ (outcome host settings (Kotlin.emitter container) marker).units) :
    (∃ declaration ∈ host.marked marker, unit.source = declaration.id) ∧
      unit.relativePath =
        Path.join (Text.packageDirectory unit.source.package) (fileName unit.source.name) := by
  obtain ⟨declaration, discovered, descriptor, -, built, rfl⟩ :=
    (PassPartition.unit_emitted rfl).mp member
  refine ⟨⟨declaration, discovered, PassPartition.described_source built⟩, ?_⟩
  simp only [GeneratedUnit.relativePath, Emitter.emit, Kotlin.emitter, Route.Descriptor.unitName,
    fileName, String.append_assoc]
  rfl

theorem marked_sublist (manifest : Manifest) (marker : String) :
    ((Host.ofManifest manifest).marked marker).Sublist manifest.declarations :=
  List.filter_sublist

/-- The units that a pass files for a sound manifest are placed, under whatever
settings and marker it has filed them. -/
theorem outcome_placed {manifest : Manifest} (sound : Sound manifest)
    (settings : Manifest.Settings) (container : Kotlin.Container) (marker : String) :
    Placed (outcome (.ofManifest manifest) settings (Kotlin.emitter container) marker).units := by
  constructor
  · have ordered := PassPartition.described_in_order (.ofManifest manifest) settings
      ((Host.ofManifest manifest).marked marker)
    simp only [outcome, PassPartition.unit_sources]
    exact ((identities_distinct sound).sublist ((marked_sublist manifest marker).map _)).sublist
      ordered
  · intro unit member
    obtain ⟨⟨declaration, discovered, source⟩, path⟩ := unit_declared member
    have own := sound.declarations declaration ((marked_sublist manifest marker).subset discovered)
    have package : UsablePackage unit.source.package := source ▸ own.package
    have name : Kotlin.isUsable unit.source.name = true := source ▸ own.name
    refine ⟨package, name, ?_⟩
    rw [path]
    exact pieces_below_package package (fileName_named name)

/-- Names in a package have no dots and name directories. -/
theorem Located.directories {unit : GeneratedUnit} (located : Located unit) {name : String}
    (member : name ∈ directoryNames unit.source.package) : Named name ∧ '.' ∉ name.toList := by
  have usable := directoryName_usable located.package member
  exact ⟨usable_named usable, usable_undotted usable⟩

/-- A unit's path is made of names alone, so it leads down at every piece. -/
theorem Located.named {unit : GeneratedUnit} (located : Located unit) :
    ∀ name ∈ unitNames unit.source, Named name := by
  simp only [unitNames, List.mem_append, List.mem_singleton]
  rintro name (directory | rfl)
  · exact (located.directories directory).1
  · exact fileName_named located.name

private theorem Located.components {unit : GeneratedUnit} (located : Located unit) :
    Path.components unit.relativePath = unitNames unit.source := by
  rw [components_named (located.pieces ▸ located.named), located.pieces]

/-- No unit's file stands where another unit needs a directory, since only the
name of a file has a dot. -/
theorem Located.unobstructed {unit other : GeneratedUnit} (located : Located other)
    (above : unitNames unit.source <+: unitNames other.source) : unit.source = other.source := by
  rcases List.prefix_concat_iff.mp above with same | within
  · exact unitNames_injective same
  · have directory : fileName unit.source.name ∈ directoryNames other.source.package :=
      within.subset (by simp [unitNames])
    exact absurd (fileName_dotted unit.source.name) (located.directories directory).2

/-- Paths of units that are apart, stay below whatever they are joined to, and
do not stand in each other's way. -/
structure SafePaths (context : Context) : Prop where
  distinct : (context.units.map (·.relativePath)).Nodup
  /-- The paths are also apart when only their components count. -/
  apart : (context.units.map fun unit => Path.components unit.relativePath).Nodup
  relative : ∀ unit ∈ context.units, Path.isAbsolute unit.relativePath = false
  /-- Nothing in a path is empty or leads anywhere but down. -/
  descending : ∀ unit ∈ context.units, ∀ piece ∈ Path.pieces unit.relativePath,
    piece ≠ "" ∧ piece ≠ "." ∧ piece ≠ ".."
  below : ∀ unit ∈ context.units, ∀ root, Path.components (unit.pathBelow root) =
    Path.components root ++ Path.pieces unit.relativePath
  /-- No path is another one's directory. -/
  unobstructed : ∀ unit ∈ context.units, ∀ other ∈ context.units,
    Path.components unit.relativePath <+: Path.components other.relativePath → unit = other
  displayed : (context.discovered.map (·.qualifiedName)).Nodup

/-- Placed units of distinctly named declarations have safe paths. -/
theorem Placed.safe {context : Context} (placed : Placed context.units)
    (displayed : (context.discovered.map (·.qualifiedName)).Nodup) : SafePaths context := by
  have apart : (context.units.map fun unit => Path.components unit.relativePath).Nodup := by
    have names : (context.units.map fun unit => Path.components unit.relativePath) =
        (context.units.map (·.source)).map unitNames := by
      rw [List.map_map]
      exact List.map_congr_left fun unit member => (placed.located unit member).components
    rw [names]
    exact placed.distinct.map unitNames_injective
  have distinct : (context.units.map (·.relativePath)).Nodup := by
    apply List.Nodup.of_map Path.components
    simpa only [List.map_map, Function.comp_def] using apart
  have named : ∀ unit ∈ context.units, ∀ piece ∈ Path.pieces unit.relativePath, Named piece := by
    intro unit member
    rw [(placed.located unit member).pieces]
    exact (placed.located unit member).named
  refine ⟨distinct, apart, fun unit member => named_relative (named unit member), ?_, ?_, ?_,
    displayed⟩
  · intro unit member piece inside
    obtain ⟨nonempty, notHere, notAbove, -, -⟩ := named unit member piece inside
    exact ⟨nonempty, notHere, notAbove⟩
  · intro unit member root
    rw [GeneratedUnit.pathBelow, components_join root (named unit member)]
  · intro unit member other otherMember above
    rw [(placed.located unit member).components,
      (placed.located other otherMember).components] at above
    exact List.inj_on_of_nodup_map placed.distinct member otherMember
      ((placed.located other otherMember).unobstructed above)

private theorem outcome_safe {manifest : Manifest} (sound : Sound manifest)
    (settings : Manifest.Settings) (container : Kotlin.Container) (marker : String) :
    SafePaths (outcome (.ofManifest manifest) settings (Kotlin.emitter container) marker) :=
  (outcome_placed sound settings container marker).safe
    (sound.distinct.sublist ((marked_sublist manifest marker).map _))

private theorem safe_of_filed {context : Context} (safe : SafePaths (filed context)) :
    SafePaths context :=
  ⟨safe.distinct, safe.apart, safe.relative, safe.descending, safe.below, safe.unobstructed,
    safe.displayed⟩

/-- A pass in Kotlin over a manifest that was read from a text gives its units
safe paths: on its own it always comes to its end, and plugins and further
phases change nothing as long as they leave alone what is filed. -/
theorem unit_paths_safe {σ : Type} {manifest : Manifest} {source file : String}
    (accepted : Manifest.parse source file = .ok manifest) (container : Kotlin.Container) :
    (∀ lints, ∃ context,
      ({ emitter := Kotlin.emitter container, lints } : Generator σ).run (.ofManifest manifest) =
        pure context ∧ SafePaths context) ∧
    ∀ generator : Generator σ, generator.emitter = Kotlin.emitter container →
      (∀ plugin ∈ generator.plugins, Restrained plugin) →
      (∀ phase ∈ generator.phases, LeavesFiled phase.run) →
      ∀ context state final, Succeeds (generator.run (.ofManifest manifest)) state context final →
        SafePaths context := by
  have sound := (parse_ok.mp accepted).2
  constructor
  · intro lints
    refine ⟨_, Generator.run_standard (Kotlin.emitter container) lints (.ofManifest manifest), ?_⟩
    apply safe_of_filed
    rw [settle_files]
    exact outcome_safe sound _ container _
  · intro generator kotlin restrained further context state final ran
    obtain ⟨settings, marker, files⟩ := run_files restrained further ran
    apply safe_of_filed
    rw [files, kotlin]
    exact outcome_safe sound settings container marker

/-- A manifest with a declaration that is named like a package beside it. -/
def nestedText : String :=
  "[[declaration]]\nname=\"Home\"\npackage=\"com.app\"\n" ++
  "annotations=[\x7bname=\"Destination\",args=[\"home\"]\x7d]\n" ++
  "[[declaration]]\nname=\"app\"\npackage=\"com\"\n" ++
  "annotations=[\x7bname=\"Destination\",args=[\"a\"]\x7d]\n"

def nestedManifest : Manifest where
  declarations := [
    { name := "Home", package := "com.app", markers := [⟨"Destination", ["home"]⟩] },
    { name := "app", package := "com", markers := [⟨"Destination", ["a"]⟩] }]

theorem nested_accepted : Manifest.parse nestedText "wayfinder.toml" = .ok nestedManifest :=
  parse_checked (by cbv) (by rfl)

/-- A plugin that counts the calls of a pass and reports before every phase. -/
def counting : Plugin Nat where
  name := "counting"
  before phase context := do
    modify (· + 1)
    return context.report { severity := .info, phase, message := "seen" }
  after _ context := do
    modify (· + 1)
    return context

/-- Counting and reporting leave alone what is filed and the settings. -/
theorem counting_configured : KeepsAtHooks configured counting := by
  constructor
  · intro phase before after state final ran
    obtain ⟨middle, between, -, ran⟩ := succeeds_bind.mp ran
    obtain ⟨rfl, -⟩ := succeeds_pure.mp ran
    rfl
  · intro phase before after state final ran
    obtain ⟨middle, between, -, ran⟩ := succeeds_bind.mp ran
    obtain ⟨rfl, -⟩ := succeeds_pure.mp ran
    rfl

theorem counting_restrained : Restrained counting :=
  counting_configured.restrained

def countedGenerator : Generator Nat where
  emitter := Kotlin.emitter ⟨"Bundle", "bundle"⟩
  plugins := [counting]

theorem unit_paths_safe_nested :
    Manifest.parse nestedText "wayfinder.toml" = .ok nestedManifest ∧
      ∃ context final,
        Succeeds (countedGenerator.run (.ofManifest nestedManifest)) 0 context final ∧
          context.units.map (·.relativePath) =
            ["com/app/HomeDestination.kt", "com/appDestination.kt"] ∧
          SafePaths context := by
  refine ⟨nested_accepted, ?_⟩
  have shown : ((ExceptT.run (countedGenerator.run (.ofManifest nestedManifest))).run
      0).1.toOption.map (fun context => context.units.map (·.relativePath)) =
        some ["com/app/HomeDestination.kt", "com/appDestination.kt"] := by
    decide +kernel
  obtain ⟨context, final, ran, paths⟩ := succeeds_shown shown
  have restrained : ∀ plugin ∈ countedGenerator.plugins, Restrained plugin := by
    intro plugin member
    have same : plugin = counting := by simpa [countedGenerator] using member
    rw [same]
    exact counting_restrained
  exact ⟨context, final, ran, paths,
    (unit_paths_safe nested_accepted ⟨"Bundle", "bundle"⟩).2 countedGenerator rfl restrained
      (by simp [countedGenerator]) context 0 final ran⟩

end TypedRoutes.UnitPaths
