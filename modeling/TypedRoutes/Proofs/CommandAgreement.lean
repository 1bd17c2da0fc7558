import TypedRoutes.Proofs.IncrementalGeneration
import TypedRoutes.Proofs.PassEnding

/-! The commands tell the same story. Checking, explaining and generating each
run a pass of their own and draw a report from it in their own way: one counts
and sorts diagnostics, one pairs descriptors with units, one asks the writer.
Whatever the manifest holds, the reports agree, because every unit has its
descriptor and every error its rejected declaration. -/
namespace TypedRoutes.CommandAgreement
open Command Pipeline Route PassExecution PassOutcome PassPartition PassEnding
  IncrementalGeneration

variable {host : Host} {lints : List Lint} {emitter : Emitter} {context : Context}

/-! ## Errors and rejected declarations -/

/-- The error about a rejected declaration: why it has no descriptor, and which
declaration that is. -/
def Tells (settings : Manifest.Settings) (diagnostic : Diagnostic) (id : DeclarationId) : Prop :=
  ∃ declaration error, declaration.id = id ∧
    Descriptor.ofDeclaration settings declaration = .error error ∧
    diagnostic = {
      severity := .error
      phase := "build"
      message := error.message
      location := some id.qualified }

/-- The errors of a context tell of its rejected declarations one by one, so
that neither list is longer than the other. -/
def ErrorsTold (settings : Manifest.Settings) (context : Context) : Prop :=
  List.Forall₂ (Tells settings) (context.ofSeverity .error) context.rejected

variable {settings : Manifest.Settings}

private theorem ErrorsTold.report (told : ErrorsTold settings context)
    {diagnostics : List Diagnostic}
    (harmless : ∀ diagnostic ∈ diagnostics, diagnostic.severity ≠ .error) :
    ErrorsTold settings { context with diagnostics := context.diagnostics ++ diagnostics } := by
  have same : ({ context with diagnostics := context.diagnostics ++ diagnostics } :
      Context).ofSeverity .error = context.ofSeverity .error := by
    have none : diagnostics.filter (·.severity == .error) = [] := by
      simpa using harmless
    rw [Context.ofSeverity, List.filter_append, none, List.append_nil, Context.ofSeverity]
  rw [ErrorsTold, same]
  exact told

private theorem buildOne_told (same : context.settings = settings)
    (told : ErrorsTold settings context)
    (declaration : Manifest.Declaration) :
    ErrorsTold settings (context.buildOne host declaration) := by
  unfold Context.buildOne
  split
  · have waiting : ErrorsTold settings
        { context with invalid := context.invalid ++ [declaration.id] } := told
    exact waiting.report (by simp)
  · cases built : Descriptor.ofDeclaration context.settings declaration with
    | ok descriptor => exact told
    | error error =>
      have tells : Tells settings _ declaration.id := ⟨declaration, error, rfl, same ▸ built, rfl⟩
      simp only [ErrorsTold, Context.ofSeverity, Context.report, List.filter_append]
      exact List.rel_append told (.cons tells .nil)

/-- Building tells of every declaration that it rejects, and of no other. -/
theorem build_loop_told (declarations : List Manifest.Declaration)
    (same : context.settings = settings) (told : ErrorsTold settings context) :
    ErrorsTold settings (declarations.foldl (Context.buildOne host) context) := by
  induction declarations generalizing context with
  | nil => exact told
  | cons declaration rest ih =>
    rw [List.foldl_cons]
    exact ih ((buildOne_files host context declaration).1.trans same)
      (buildOne_told same told declaration)

private theorem collisions_harmless {source : DeclarationId} {taken : List (String × String)}
    {fields : List Field} {diagnostic : Diagnostic}
    (found : diagnostic ∈ collisions source taken fields) : diagnostic.severity ≠ .error := by
  induction fields generalizing taken with
  | nil => cases found
  | cons field rest ih =>
    simp only [collisions] at found
    split at found
    · rcases List.mem_cons.mp found with rfl | later
      · simp [constantTaken]
      · exact ih later
    · exact ih found

/-- The standard lints note and warn, and report no error, so that every error
comes from building. -/
theorem standardLints_harmless {lint : Lint} (standard : lint ∈ standardLints)
    {descriptors : List Descriptor} {diagnostic : Diagnostic}
    (found : diagnostic ∈ lint.check descriptors) : diagnostic.severity ≠ .error := by
  simp only [standardLints, List.mem_cons, List.not_mem_nil, or_false] at standard
  rcases standard with rfl | rfl | rfl
  · obtain ⟨descriptor, -, member⟩ := List.mem_flatMap.mp found
    obtain ⟨field, -, rfl⟩ := List.mem_map.mp member
    simp [unsupportedField]
  · obtain ⟨descriptor, -, member⟩ := List.mem_flatMap.mp found
    exact collisions_harmless member
  · obtain ⟨⟨routeName, users⟩, -, member⟩ := List.mem_flatMap.mp found
    cases users with
    | nil => cases member
    | cons first rest =>
      obtain ⟨user, -, rfl⟩ := List.mem_map.mp member
      simp [routeTaken]

private theorem classify_told (told : ErrorsTold settings context) :
    ErrorsTold settings (context.classify host) := by
  simp only [Context.classify]
  split
  · exact told
  · exact told.report (by simp)

private theorem discover_told (told : ErrorsTold settings context) :
    ErrorsTold settings (context.discover host) := by
  have found : ErrorsTold settings { context with
      sourceFiles := host.sourceFiles
      discovered := host.marked context.settings.routeMarker } := told
  exact found.report (by simp)

private theorem validate_told (told : ErrorsTold settings context) :
    ErrorsTold settings (context.validate standardLints) := by
  apply told.report
  intro diagnostic found
  obtain ⟨lint, standard, found⟩ := List.mem_flatMap.mp found
  exact standardLints_harmless standard found

private theorem emit_told (told : ErrorsTold settings context) :
    ErrorsTold settings (context.emit emitter) :=
  told

/-- A pass with the standard lints has one error for every rejected declaration.
-/
theorem settle_told (host : Host) (emitter : Emitter) :
    ErrorsTold host.settings (settle host standardLints emitter) := by
  have start : ErrorsTold host.settings (Context.initial host) := .nil
  have built : ErrorsTold host.settings (((Context.initial host).discover host).build host) :=
    build_loop_told _ rfl (discover_told start)
  exact classify_told (emit_told (validate_told built))

/-! ## Units and declarations -/

variable (host) in
/-- A pass leaves nothing for a later round just when it has nothing waiting and
nothing rejected. -/
theorem retry_nil_iff (settings : Manifest.Settings) (declarations : List Manifest.Declaration) :
    ((declarations.filter fun declaration => !host.isValid declaration ||
        (refused host settings declarations).contains declaration.id).map (·.id) = []) ↔
      waiting host settings declarations = [] ∧ refused host settings declarations = [] := by
  have vouched : waiting host settings declarations = [] ↔
      ∀ declaration ∈ declarations, host.isValid declaration = true := by
    simp [waiting, verdict_isWaiting]
  rw [vouched]
  simp only [List.map_eq_nil_iff, List.filter_eq_nil_iff, Bool.or_eq_true, Bool.not_eq_true',
    not_or, Bool.not_eq_false, List.contains_eq_mem, decide_eq_true_eq]
  constructor
  · intro settled
    refine ⟨fun declaration member => (settled declaration member).1, ?_⟩
    rw [List.eq_nil_iff_forall_not_mem]
    intro id rejected
    obtain ⟨declaration, member, rfl⟩ := List.mem_map.mp rejected
    exact (settled declaration (List.mem_of_mem_filter member)).2 rejected
  · rintro ⟨valid, none⟩ declaration member
    exact ⟨valid declaration member, by simp [none]⟩

variable (host) in
/-- Every declaration has a descriptor just when none is waiting or rejected.
With the lists of one pass, counting is enough to tell. -/
theorem described_all_iff (settings : Manifest.Settings)
    (declarations : List Manifest.Declaration) :
    (described host settings declarations).length = declarations.length ↔
      waiting host settings declarations = [] ∧ refused host settings declarations = [] := by
  have sum := (verdicts_perm host settings declarations).length_eq
  simp only [List.length_append, List.length_map] at sum
  rw [← List.length_eq_zero_iff, ← List.length_eq_zero_iff]
  omega

/-! ## The reports -/

/-- The paths of the files that generating wrote or showed, in order and with a
leading output directory in neither case. -/
def filePaths : GenerateResult → List String
  | .written _ files _ => files.map (·.1)
  | .preview files => files.map (·.1)

/-- What the reports on one manifest have in common. Each is made from a pass of
its own, and nothing is handed from one command to the other. -/
structure Agree (manifest : Manifest) (configPath : String) (report : GenerateReport) : Prop where
  /-- As many routes are explained, and as many files come out, as units are counted. -/
  counted : (explain manifest configPath).routes.length = (check manifest configPath).units ∧
    (filePaths report.result).length = (check manifest configPath).units
  paths : (explain manifest configPath).routes.map (·.unit) = filePaths report.result
  /-- The files are those of the units that a pass makes. -/
  units : filePaths report.result = manifest.settled.units.map (·.relativePath)
  /-- A route is explained under the declaration that its unit comes from. -/
  sources : (explain manifest configPath).routes.map
      (fun note => (note.declaration, note.descriptor.source)) =
    manifest.settled.units.map fun unit => (unit.source.qualified, unit.source)
  /-- No descriptor is left without its unit. -/
  described : (explain manifest configPath).routes.map (·.descriptor) =
    manifest.settled.descriptors
  deferred : (check manifest configPath).deferred = report.deferred ∧
    (explain manifest configPath).deferred = report.deferred
  declarations : (check manifest configPath).declarations = report.declarations
  /-- There is one error for every rejected declaration, and it says which one. -/
  errors : List.Forall₂ (fun text (id : DeclarationId) => ∃ error : BuildError,
      text = error.message ++ "\n  --> " ++ id.qualified)
    (check manifest configPath).errors manifest.settled.rejected
  valid : (check manifest configPath).isValid = true ↔
    (check manifest configPath).units = (check manifest configPath).declarations
  failing : (check manifest configPath).errors ≠ [] → (check manifest configPath).deferred ≠ []
  /-- A report of failure lists a declaration below the heading of those put off. -/
  listed : (check manifest configPath).isValid = false → ∃ before name names after,
    (check manifest configPath).lines = before ++ Report.deferredList (name :: names) ++ after

variable {manifest : Manifest} {configPath out : String} {fs after : Files.FileSystem}

private theorem settled_files (manifest : Manifest) : filed manifest.settled =
    outcome (.ofManifest manifest) manifest.settings
      (Kotlin.emitter (.ofSettings manifest.settings)) manifest.settings.routeMarker :=
  settle_files _ _

/-- Every unit of a pass was made from the descriptor at its place, so
explaining a route and generating it go by the same path. -/
theorem settled_units (manifest : Manifest) : manifest.settled.units =
    manifest.settled.descriptors.map fun descriptor =>
      { (Kotlin.emitter (.ofSettings manifest.settings)).emit descriptor with
        dependencies := .all manifest.sourceFiles } := by
  have units := congrArg Context.units (settled_files manifest)
  have descriptors := congrArg Context.descriptors (settled_files manifest)
  simp only [filed, outcome] at units descriptors
  rw [units, descriptors]
  rfl

private theorem explain_routes (manifest : Manifest) (configPath : String) :
    (explain manifest configPath).routes = manifest.settled.descriptors.map fun descriptor =>
      ⟨descriptor.source.qualified,
        ((Kotlin.emitter (.ofSettings manifest.settings)).emit descriptor).relativePath,
        descriptor⟩ := by
  have pairs := settled_units manifest
  simp only [explain]
  rw [pairs, ← List.map_prod_left_eq_zip, List.map_map]
  rfl

private theorem snapshots_keep (directory : String) :
    KeepsAtHooks id (Snapshot.filer directory) := by
  constructor
  · intro phase before after state final ran
    exact (succeeds_pure.mp ran).1.symm
  · intro phase before after state final ran
    obtain ⟨⟨⟩, between, -, ran⟩ := succeeds_bind.mp ran
    exact (succeeds_pure.mp ran).1.symm

/-- A run that generates files ends as the pass does on its own, with or without
snapshots, and every unit of the pass has its file. -/
theorem generate_written {visualize : Bool} {report : GenerateReport}
    (ran : Succeeds (generate manifest { outputDir := out, visualize }) fs report after) :
    ∃ written debug, List.Forall₂ Records written manifest.settled.units ∧
      report = .ofPass manifest.settled
        (.written out (written.map fun unit => (unit.path, unit.outcome)) debug) := by
  simp only [generate, Bool.false_eq_true, ↓reduceIte] at ran
  obtain ⟨ending, middle, processed, made⟩ := succeeds_bind.mp ran
  obtain ⟨rfl, -⟩ := succeeds_pure.mp made
  generalize plugged : List.map (fun plugin => Plugin.onFirst _ plugin) _ = plugins at processed
  have keep : ∀ plugin ∈ plugins, KeepsAtHooks id plugin := by
    intro plugin member
    rw [← plugged] at member
    obtain ⟨snapshots, asked, rfl⟩ := List.mem_map.mp member
    split at asked
    · rw [List.mem_singleton.mp asked]
      exact (snapshots_keep _).onFirst _
    · cases asked
  have ending : ∃ final, Succeeds (process manifest out plugins) (fs, []) ending final := by
    cases run : (ExceptT.run (process manifest out plugins)).run (fs, []) with
    | mk result final =>
      have same : (result, final.1) = (.ok ending, middle) := by
        rw [← processed]
        simp only [ExceptT.run_mk, StateT.run] at run ⊢
        rw [run]
      cases same
      exact ⟨final, run⟩
  obtain ⟨final, ran⟩ := ending
  rw [process, process_eq] at ran
  obtain ⟨context, between, passed, ran⟩ := succeeds_bind.mp ran
  obtain ⟨written, stop, stored, ran⟩ := succeeds_bind.mp ran
  obtain ⟨rfl, -⟩ := succeeds_pure.mp ran
  obtain rfl : context = manifest.settled := run_settles keep rfl passed
  exact ⟨written, _, written_each stored, rfl⟩

/-- Nothing is put off just when every declaration has its unit. -/
theorem settled_complete (manifest : Manifest) : manifest.settled.retry = [] ↔
    manifest.settled.units.length = manifest.settled.discovered.length := by
  have files := settled_files manifest
  have retry := congrArg Context.retry files
  have discovered := congrArg Context.discovered files
  have units := congrArg Context.units files
  simp only [filed, outcome] at retry discovered units
  rw [retry, discovered, units, List.length_map, retry_nil_iff]
  exact (described_all_iff _ _ _).symm

private theorem rejected_put_off (manifest : Manifest) (none : manifest.settled.retry = []) :
    manifest.settled.rejected = [] := by
  have files := settled_files manifest
  have retry := congrArg Context.retry files
  have rejected := congrArg Context.rejected files
  simp only [filed, outcome] at retry rejected
  rw [retry, retry_nil_iff] at none
  rw [rejected]
  exact none.2

private theorem check_errors (manifest : Manifest) (configPath : String) :
    List.Forall₂ (fun text (id : DeclarationId) => ∃ error : BuildError,
        text = error.message ++ "\n  --> " ++ id.qualified)
      (check manifest configPath).errors manifest.settled.rejected := by
  have told := settle_told (.ofManifest manifest)
    (Kotlin.emitter (.ofSettings manifest.settings))
  apply List.forall₂_map_left_iff.mpr
  refine List.Forall₂.imp ?_ told
  rintro diagnostic id ⟨declaration, error, -, -, rfl⟩
  exact ⟨error, rfl⟩

/-- An error is always about a declaration that is put off, so no manifest is
both complete and in error. -/
theorem errors_put_off (failing : (check manifest configPath).errors ≠ []) :
    (check manifest configPath).deferred ≠ [] := by
  intro none
  have each := check_errors manifest configPath
  rw [rejected_put_off manifest (List.map_eq_nil_iff.mp none)] at each
  exact failing (List.forall₂_nil_right_iff.mp each)

private theorem isValid_iff (manifest : Manifest) (configPath : String) :
    (check manifest configPath).isValid = true ↔ (check manifest configPath).deferred = [] := by
  simp only [CheckReport.isValid, Bool.and_eq_true, List.isEmpty_iff]
  constructor
  · exact And.right
  · intro none
    refine ⟨?_, none⟩
    by_contra failing
    exact errors_put_off failing none

private theorem lines_of_failure {report : CheckReport} (failing : report.isValid = false) :
    ∃ before after, report.lines = before ++ Report.deferredList report.deferred ++ after := by
  simp only [CheckReport.lines, failing, Bool.false_eq_true, ↓reduceIte]
  exact ⟨_, _, rfl⟩

/-- Reports on a pass agree when the files are those of its units. -/
theorem pass_agrees {result : GenerateResult}
    (files : filePaths result = manifest.settled.units.map (·.relativePath)) :
    Agree manifest configPath (.ofPass manifest.settled result) := by
  have valid : (check manifest configPath).isValid = true ↔
      (check manifest configPath).units = (check manifest configPath).declarations := by
    rw [isValid_iff]
    exact List.map_eq_nil_iff.trans (settled_complete manifest)
  have explained : (explain manifest configPath).routes.map (·.unit) =
      manifest.settled.units.map (·.relativePath) := by
    rw [explain_routes, settled_units, List.map_map, List.map_map]
    rfl
  have counted : (check manifest configPath).units = manifest.settled.units.length := rfl
  refine ⟨⟨?_, ?_⟩, explained.trans files.symm, files, ?_, ?_, ⟨rfl, rfl⟩, rfl,
    check_errors manifest configPath, valid, errors_put_off, ?_⟩
  · simpa [counted] using congrArg List.length explained
  · simpa [counted, GenerateReport.ofPass] using congrArg List.length files
  · rw [explain_routes, settled_units, List.map_map, List.map_map]
    rfl
  · rw [explain_routes, List.map_map]
    exact List.map_id _
  · intro failing
    have deferred : (check manifest configPath).deferred ≠ [] := by
      intro none
      rw [(isValid_iff manifest configPath).mpr none] at failing
      cases failing
    obtain ⟨name, names, some⟩ := List.exists_cons_of_ne_nil deferred
    obtain ⟨before, after, lines⟩ := lines_of_failure failing
    exact ⟨before, name, names, after, some ▸ lines⟩

private theorem recorded_paths {written : List WrittenUnit} {units : List GeneratedUnit}
    (each : List.Forall₂ Records written units) :
    written.map (·.path) = units.map (·.relativePath) := by
  induction each with
  | nil => rfl
  | cons same _ ih => rw [List.map_cons, List.map_cons, ih, same.2]

/-- Checking, explaining and generating agree on every manifest, be it sound or
not. A dry run always comes to its end, and a run that writes agrees with the
others whenever it does, with or without snapshots. -/
theorem commands_agree (manifest : Manifest) (configPath out : String) (visualize : Bool)
    (fs : Files.FileSystem) :
    (∃ report, Succeeds (generate manifest { outputDir := out, dryRun := true, visualize }) fs
        report fs ∧ Agree manifest configPath report) ∧
      ∀ report after, Succeeds (generate manifest { outputDir := out, visualize }) fs report after →
        Agree manifest configPath report := by
  constructor
  · refine ⟨_, generate_previews manifest out fs, pass_agrees ?_⟩
    exact List.map_map
  · intro report after ran
    obtain ⟨written, debug, each, rfl⟩ := generate_written ran
    apply pass_agrees
    rw [filePaths, List.map_map]
    exact recorded_paths each

/-- A name declared twice, once with a blank route, and a route that is not resolved. -/
def crowdedManifest : Manifest where
  declarations := [
    { name := "Home", markers := [⟨"Destination", ["home"]⟩] },
    { name := "Home", markers := [⟨"Destination", [" "]⟩] },
    { name := "Late", package := "com.app", markers := [⟨"Destination", []⟩] }]

theorem commands_agree_crowded : ∃ report after,
    Succeeds (generate crowdedManifest { outputDir := "out", visualize := true })
        (.empty ["work"] none none) report after ∧
      filePaths report.result = ["HomeDestination.kt"] ∧
      report.deferred = ["Home", "Home", "com.app.Late"] ∧
      Agree crowdedManifest "wayfinder.toml" report := by
  have shown : ((ExceptT.run (generate crowdedManifest
      { outputDir := "out", visualize := true })).run (.empty ["work"] none none)).1.toOption.map
        (fun report => (filePaths report.result, report.deferred)) =
      some (["HomeDestination.kt"], ["Home", "Home", "com.app.Late"]) := by
    decide +kernel
  obtain ⟨report, after, ran, same⟩ := succeeds_shown shown
  obtain ⟨paths, deferred⟩ := Prod.mk.inj same
  exact ⟨report, after, ran, paths, deferred,
    (commands_agree crowdedManifest "wayfinder.toml" "out" true
      (.empty ["work"] none none)).2 report after ran⟩

end TypedRoutes.CommandAgreement
