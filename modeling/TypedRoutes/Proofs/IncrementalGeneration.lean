import TypedRoutes.Command.Generate
import TypedRoutes.Proofs.OutputDirectory

/-! Generating into one output directory again and again. From an empty
directory on, any runs over accepted manifests come to their end, and each one
touches the files of its own units only, and of those only what has to change. -/
namespace TypedRoutes.IncrementalGeneration
open Files FileSystem Pipeline Command PassExecution PassOutcome FileTree UnitPaths OutputDirectory

/-- A manifest that was read from a text, so that its names and packages are
sound and its identities distinct. -/
def Accepted (manifest : Manifest) : Prop :=
  ∃ source file, Manifest.parse source file = .ok manifest

/-- The context that a pass over a manifest ends with. It does not depend on
what is in the output directory. -/
def pass (manifest : Manifest) : Context :=
  settle (.ofManifest manifest) standardLints (Kotlin.emitter (.ofSettings manifest.settings))

/-- The units that are generated from a manifest, in order. -/
def generatedUnits (manifest : Manifest) : List GeneratedUnit :=
  (pass manifest).units

private theorem generatedUnits_placed {manifest : Manifest} (accepted : Accepted manifest) :
    Placed (generatedUnits manifest) := by
  obtain ⟨source, file, accepted⟩ := accepted
  have files : filed (pass manifest) = outcome (.ofManifest manifest) manifest.settings
      (Kotlin.emitter (.ofSettings manifest.settings)) manifest.settings.routeMarker :=
    settle_files _ _
  have placed := outcome_placed (SoundManifests.parse_ok.mp accepted).2 manifest.settings
    (.ofSettings manifest.settings) manifest.settings.routeMarker
  rw [← files] at placed
  exact placed

variable {manifest : Manifest} {out : String} {fs : FileSystem}

private theorem kotlinGenerator_run {σ : Type} (manifest : Manifest) :
    (kotlinGenerator manifest [] : Generator σ).run (.ofManifest manifest) = pure (pass manifest) :=
  Generator.run_standard _ _ _

/-- Generating writes the units of a pass, and reports what became of each. Once
the writes have come to their end, so does the run. -/
theorem generate_writes {written : List WrittenUnit} {after : FileSystem}
    {later : List DependencyRecord}
    (ran : Succeeds ((generatedUnits manifest).mapM fun unit => do
      let outcome ← directoryWriter out unit
      return ({ source := unit.source, path := unit.relativePath, outcome } : WrittenUnit))
      (fs, []) written (after, later)) :
    Succeeds (generate manifest { outputDir := out }) fs
      (.ofPass (pass manifest)
        (.written out (written.map fun unit => (unit.path, unit.outcome)) none)) after := by
  have processed : Succeeds (process manifest out []) (fs, [])
      { context := pass manifest, written } (after, later) := by
    rw [process, Generator.process, kotlinGenerator_run]
    exact succeeds_bind.mpr ⟨_, _, succeeds_pure.mpr ⟨rfl, rfl⟩,
      succeeds_bind.mpr ⟨_, _, ran, succeeds_pure.mpr ⟨rfl, rfl⟩⟩⟩
  refine succeeds_bind.mpr ⟨{ context := pass manifest, written }, after, ?_,
    succeeds_pure.mpr ⟨rfl, rfl⟩⟩
  have result : ExceptT.run (process manifest out []) (fs, []) =
      (.ok { context := pass manifest, written }, (after, later)) := processed
  simp only [Succeeds, ExceptT.run_mk, StateT.run, Bool.false_eq_true, ↓reduceIte, List.map_nil,
    result]

private theorem memoryWriter_collects (units kept : List GeneratedUnit) :
    Succeeds (units.mapM fun unit => do
      let outcome ← memoryWriter unit
      return ({ source := unit.source, path := unit.relativePath, outcome } : WrittenUnit))
      kept (units.map fun unit => ⟨unit.source, unit.relativePath, .written⟩) (kept ++ units) := by
  induction units generalizing kept with
  | nil => exact succeeds_pure.mpr ⟨rfl, by simp⟩
  | cons unit rest ih =>
    rw [List.mapM_cons, List.map_cons, List.append_cons]
    refine succeeds_bind.mpr ⟨_, kept ++ [unit], succeeds_bind.mpr ⟨.written, kept ++ [unit], ?_,
      succeeds_pure.mpr ⟨rfl, rfl⟩⟩, ?_⟩
    · exact succeeds_bind.mpr ⟨⟨⟩, _, rfl, succeeds_pure.mpr ⟨rfl, rfl⟩⟩
    · exact succeeds_bind.mpr ⟨_, _, ih (kept ++ [unit]), succeeds_pure.mpr ⟨rfl, rfl⟩⟩

/-- A dry run shows the units of a pass and leaves the file system alone,
whatever is in it. -/
theorem generate_previews (manifest : Manifest) (out : String) (fs : FileSystem) :
    Succeeds (generate manifest { outputDir := out, dryRun := true }) fs
      (.ofPass (pass manifest) (.preview
        ((generatedUnits manifest).map fun unit => (unit.relativePath, unit.content)))) fs := by
  let written := (generatedUnits manifest).map fun unit =>
    WrittenUnit.mk unit.source unit.relativePath .written
  have processed : Succeeds ((kotlinGenerator manifest []).process (.ofManifest manifest)
      memoryWriter) [] { context := pass manifest, written } (generatedUnits manifest) := by
    rw [Generator.process, kotlinGenerator_run]
    exact succeeds_bind.mpr ⟨_, _, succeeds_pure.mpr ⟨rfl, rfl⟩, succeeds_bind.mpr ⟨_, _,
      memoryWriter_collects (generatedUnits manifest) [], succeeds_pure.mpr ⟨rfl, rfl⟩⟩⟩
  have shown : preview manifest =
      .ok ({ context := pass manifest, written }, generatedUnits manifest) := by
    rw [Succeeds] at processed
    rw [preview, processed]
    rfl
  refine succeeds_bind.mpr ⟨({ context := pass manifest, written }, generatedUnits manifest), fs,
    ?_, succeeds_pure.mpr ⟨rfl, rfl⟩⟩
  rw [shown]
  rfl

/-! ## Histories -/

/-- An output directory to start from. Every directory on its path is there or
can be made, and when they are all there it has nothing in it. -/
structure Vacant (fs : FileSystem) (out : String) : Prop extends Rooted fs where
  unbroken : '\x00' ∉ out.toList
  makeable : ∃ made,
    Succeeds (makeDirectories (start fs out) (Path.pieces out)) fs () made ∧
      ∀ below, below ≠ [] → made.node? (directory fs out ++ below) = none

private theorem Vacant.settled (vacant : Vacant fs out) : Settled fs out := by
  obtain ⟨made, ran, empty⟩ := vacant.makeable
  have opened : Opened (way fs out) fs made :=
    makeDirectories_opened vacant.toRooted (vacant.toRooted.start out) ran
  have bare (below : List String) (name : String) :
      fs.node? (directory fs out ++ (below ++ [name])) = none := by
    cases held : fs.node? (directory fs out ++ (below ++ [name])) with
    | none => rfl
    | some node =>
      have kept := opened.keeps held
      rw [empty _ (by simp)] at kept
      cases kept
  refine ⟨vacant.toRooted, vacant.unbroken, ?_, ?_, ?_, ?_, ?_⟩
  · intro stop member bytes held
    have kept := opened.keeps held
    rw [opened.there stop member] at kept
    cases kept
  · rintro stop member below base rfl
    have there := opened.there _ member
    rw [empty _ (by simp)] at there
    cases there
  · intro below base
    simp [bare]
  · intro below name bytes held
    simp [bare] at held
  · intro below name bytes held
    simp [bare] at held

/-- What is reported for a unit when a run starts from a file system: it is
written unless its file is there with the same text. -/
def reported (fs : FileSystem) (out : String) (unit : GeneratedUnit) : WriteOutcome :=
  match fs.readBytes (unit.pathBelow out) with
  | .ok bytes => if bytes = unit.content.toUTF8 then .unchanged else .written
  | .error _ => .written

private theorem fate_reported {unit : GeneratedUnit} (settled : Settled fs out)
    (located : Located unit) :
    fate fs out unit = reported fs out unit := by
  unfold fate reported
  cases found : fs.readBytes (unit.pathBelow out) with
  | ok bytes =>
    have held := (readBytes_pathBelow settled located).mp found
    simp only [held, Option.some.injEq, Node.file.injEq]
  | error failure =>
    rw [if_neg]
    intro held
    rw [(readBytes_pathBelow settled located).mpr held] at found
    cases found

/-- What one run of generating does to an output directory. Files of units of
earlier runs that are no longer made stay where they are. -/
structure Regenerated (out : String) (manifest : Manifest) (before : FileSystem)
    (report : GenerateReport) (after : FileSystem) : Prop where
  ran : Succeeds (generate manifest { outputDir := out }) before report after
  /-- A unit counts as unchanged just when its file held its content before. -/
  result : report.result = .written out ((generatedUnits manifest).map fun unit =>
    (unit.relativePath, reported before out unit)) none
  held : ∀ unit ∈ generatedUnits manifest,
    after.readBytes (unit.pathBelow out) = .ok unit.content.toUTF8
  /-- Every other file is what it was. -/
  kept : ∀ location, (∀ unit ∈ generatedUnits manifest,
      location ≠ directory before out ++ Path.pieces unit.relativePath) →
    ∀ bytes, after.node? location = some (.file bytes) ↔ before.node? location = some (.file bytes)
  /-- Once more reports nothing but unchanged files and changes nothing. -/
  repeated : Succeeds (generate manifest { outputDir := out }) after
    { report with result := .written out ((generatedUnits manifest).map fun unit =>
      (unit.relativePath, .unchanged)) none } after
  /-- A dry run from any state shows what this run has left in the files. -/
  previewed : ∀ fs, Succeeds (generate manifest { outputDir := out, dryRun := true }) fs
    { report with result := .preview ((generatedUnits manifest).map fun unit =>
      (unit.relativePath, unit.content)) } fs

/-- One run over an accepted manifest keeps the output directory settled, which
is all that the next run asks for. -/
theorem settled_regenerates (settled : Settled fs out) (accepted : Accepted manifest) :
    ∃ report after, Regenerated out manifest fs report after ∧ Settled after out := by
  have placed := generatedUnits_placed accepted
  obtain ⟨after, later, ran, wrote⟩ := write_units settled placed []
  obtain ⟨again, laterAgain, ranAgain, wroteAgain⟩ := write_units wrote.settled placed []
  have there : ∀ unit ∈ generatedUnits manifest,
      after.node? (unitLocation after out unit) = some (.file unit.content.toUTF8) := by
    intro unit member
    rw [unitLocation_eq wrote.workdir]
    exact wrote.held unit member
  obtain rfl := wroteAgain.still there
  have fates : ∀ unit ∈ generatedUnits manifest, fate fs out unit = reported fs out unit :=
    fun unit member => fate_reported settled (placed.located unit member)
  have stills : ∀ unit ∈ generatedUnits manifest, fate again out unit = .unchanged :=
    fun unit member => if_pos (there unit member)
  have first := generate_writes ran
  have second := generate_writes ranAgain
  simp only [List.map_map, Function.comp_def] at first second
  rw [List.map_congr_left fun unit member => by rw [fates unit member]] at first
  rw [List.map_congr_left fun unit member => by rw [stills unit member]] at second
  refine ⟨_, again, ⟨first, rfl, ?_, ?_, second, generate_previews manifest out⟩, wrote.settled⟩
  · intro unit member
    exact (readBytes_pathBelow wrote.settled (placed.located unit member)).mpr (there unit member)
  · intro location elsewhere
    apply wrote.kept
    intro unit member
    have apart := elsewhere unit member
    rwa [(placed.located unit member).pieces] at apart

/-- The file system after runs over manifests, one after another. A run that
fails would leave it as it then is. -/
def afterRuns (out : String) (history : List Manifest) (fs : FileSystem) : FileSystem :=
  history.foldl (fun fs manifest =>
    ((ExceptT.run (generate manifest { outputDir := out })).run fs).2) fs

/-- After any runs the output directory is settled. -/
theorem history_settled {history : List Manifest} (settled : Settled fs out)
    (accepted : ∀ manifest ∈ history, Accepted manifest) : Settled (afterRuns out history fs) out := by
  induction history generalizing fs with
  | nil => exact settled
  | cons manifest rest ih =>
    obtain ⟨first, others⟩ := List.forall_mem_cons.mp accepted
    obtain ⟨report, after, regenerated, stays⟩ := settled_regenerates settled first
    have ran : (ExceptT.run (generate manifest { outputDir := out })).run fs =
      (.ok report, after) := regenerated.ran
    simp only [afterRuns, List.foldl_cons, ran]
    exact ih stays others

/-- From an empty output directory on, after any runs over accepted manifests,
the next run comes to its end and does what it should. -/
theorem generation_incremental (vacant : Vacant fs out) {history : List Manifest}
    (accepted : ∀ manifest ∈ history, Accepted manifest) (next : Accepted manifest) :
    ∃ report after, Regenerated out manifest (afterRuns out history fs) report after := by
  obtain ⟨report, after, regenerated, -⟩ :=
    settled_regenerates (history_settled vacant.settled accepted) next
  exact ⟨report, after, regenerated⟩

private theorem stops_between {location stop : Location} {pieces : List String}
    (descending : ".." ∉ pieces) (member : stop ∈ stops location pieces) :
    location <+: stop ∧ stop <+: descend location pieces := by
  induction pieces generalizing location stop with
  | nil =>
    rw [List.mem_singleton.mp member]
    exact ⟨List.prefix_rfl, List.prefix_rfl⟩
  | cons piece rest ih =>
    obtain ⟨down, later⟩ := List.ne_and_not_mem_of_not_mem_cons descending
    have along {next : Location} (onward : location <+: next)
        (member : stop = location ∨ stop ∈ stops next rest) :
        location <+: stop ∧ stop <+: descend next rest := by
      rcases member with rfl | member
      · exact ⟨List.prefix_rfl, onward.trans (ih later (mem_stops_start next rest)).2⟩
      · obtain ⟨below, above⟩ := ih later member
        exact ⟨onward.trans below, above⟩
    simp only [stops, List.mem_cons] at member
    unfold descend
    by_cases idle : Path.isIdle piece = true
    · rw [if_pos idle] at member ⊢
      exact along List.prefix_rfl member
    · rw [if_neg idle, if_neg (by simpa using down.symm)] at member ⊢
      exact along (List.prefix_append location [piece]) member

/-- In a fresh file system a relative path without `..` leads to a vacant
place. -/
theorem empty_vacant (workdir : Location) (unbroken : '\x00' ∉ out.toList)
    (relative : Path.isAbsolute out = false) (descending : ".." ∉ Path.pieces out) :
    Vacant (.empty workdir none none) out := by
  have found := node?_empty workdir
  have rooted := empty_rooted workdir
  have begins : start (.empty workdir none none) out = workdir := by
    rw [start, relative]
    rfl
  have free : ∀ stop ∈ stops (start (.empty workdir none none) out) (Path.pieces out), ∀ bytes,
      (FileSystem.empty workdir none none).node? stop ≠ some (.file bytes) := by
    intro stop member bytes
    rw [found]
    split <;> simp
  obtain ⟨made, ran, opened⟩ := makeDirectories_opens rooted (rooted.start out) free
  refine ⟨rooted, unbroken, made, ran, ?_⟩
  intro below proper
  have long := List.length_pos_of_ne_nil proper
  have deep : workdir.length ≤ (directory (.empty workdir none none) out).length := by
    have above := (stops_between descending (directory_mem_way (.empty workdir none none) out)).1
    rw [begins] at above
    exact above.length_le
  rcases opened.grown (directory (.empty workdir none none) out ++ below) with same | ⟨member, -⟩
  · rw [same, found, if_neg]
    intro leads
    have short := leads.length_le
    rw [List.length_append] at short
    omega
  · have short := (stops_between descending member).2.length_le
    rw [List.length_append, ← directory] at short
    omega

private theorem emptyManifest_accepted : Accepted {} :=
  ⟨"", "wayfinder.toml", SoundManifests.parse_checked (by cbv) (by rfl)⟩

theorem generation_incremental_nested :
    Vacant (.empty ["work"] none none) "build/routes" ∧ Accepted nestedManifest ∧
      ∃ report after, Regenerated "build/routes" nestedManifest
        (afterRuns "build/routes" [nestedManifest, {}] (.empty ["work"] none none)) report
        after := by
  have vacant : Vacant (.empty ["work"] none none) "build/routes" :=
    empty_vacant ["work"] (by decide) (by decide) (by decide)
  have nested : Accepted nestedManifest := ⟨_, _, nested_accepted⟩
  exact ⟨vacant, nested, generation_incremental vacant
    (by simpa using ⟨nested, emptyManifest_accepted⟩) nested⟩

end TypedRoutes.IncrementalGeneration
