import TypedRoutes.Command.Check
import TypedRoutes.Pipeline.Snapshot
import TypedRoutes.Pipeline.Writer

/-!
Generating from a manifest: a pass whose units go below an output directory, or into a preview.
-/
namespace TypedRoutes.Command

open Pipeline

/-- What to generate: where units go, whether they are only shown, and whether snapshots are
kept. -/
structure GenerateOptions where
  outputDir : String
  /-- Show what would be generated and write nothing. -/
  dryRun : Bool := false
  /-- Write a snapshot of every phase below the output directory. Has no effect on a dry run. -/
  visualize : Bool := false
deriving DecidableEq, Repr

def GenerateOptions.debugDir (options : GenerateOptions) : String :=
  Files.Path.join options.outputDir ".wayfinder/debug"

/-- What became of the units. -/
inductive GenerateResult where
  /-- Units were handed to the file system, snapshots to a directory if they were asked for. -/
  | written (outputDir : String) (files : List (String × Files.WriteOutcome))
      (debugDir : Option String)
  /-- Units would be written with these contents. -/
  | preview (files : List (String × String))
deriving DecidableEq, Repr

/-- What generating from a manifest did, besides the files. -/
structure GenerateReport where
  warnings : List String
  declarations : Nat
  deferred : List String
  result : GenerateResult
deriving DecidableEq, Repr

def GenerateReport.ofPass (context : Context) (result : GenerateResult) : GenerateReport where
  warnings := (context.ofSeverity .warning).map (·.message)
  declarations := context.discovered.length
  deferred := context.deferred
  result := result

/-- The generator of a manifest with the given plugins. Its container comes from the settings of the
manifest. -/
def kotlinGenerator {σ : Type} (manifest : Manifest) (plugins : List (Plugin σ)) : Generator σ where
  emitter := Kotlin.emitter (.ofSettings manifest.settings)
  plugins := plugins

/-- Runs a pass over a manifest whose units go to an output directory, each only if it has
changed. -/
def process (manifest : Manifest) (outputDir : String) (plugins : List (Plugin Workspace)) :
    Run Workspace Outcome :=
  (kotlinGenerator manifest plugins).process (.ofManifest manifest) (directoryWriter outputDir)

/-- Runs a pass over a manifest whose units go to a fresh memory, so that the disk is left alone. -/
def preview (manifest : Manifest) : Except Failure (Outcome × List GeneratedUnit) :=
  let (result, units) := (ExceptT.run
    ((kotlinGenerator manifest []).process (.ofManifest manifest) memoryWriter)).run []
  result.map (·, units)

/-- Generates from a manifest, or shows what would be generated. -/
def generate (manifest : Manifest) (options : GenerateOptions) :
    Run Files.FileSystem GenerateReport :=
  if options.dryRun then do
    let (outcome, units) ← ExceptT.mk (pure (preview manifest))
    return .ofPass outcome.context
      (.preview (units.map fun unit => (unit.relativePath, unit.content)))
  else do
    let plugins := if options.visualize then [Snapshot.filer options.debugDir] else []
    let outcome ← ExceptT.mk fun fs =>
      let (result, fs, _) := (ExceptT.run
        (process manifest options.outputDir (plugins.map (·.onFirst _)))).run (fs, [])
      (result, fs)
    return .ofPass outcome.context (.written options.outputDir
      (outcome.written.map fun unit => (unit.path, unit.outcome))
      (if options.visualize then some options.debugDir else none))

namespace GenerateReport

/-- A list of files below a heading, and nothing when there are none. -/
def fileList (heading : String) (line : String → Line) (files : List String) : Report :=
  if files.isEmpty then [] else .blank :: .heading heading :: files.map line

def filesWith (outcome : Files.WriteOutcome) (files : List (String × Files.WriteOutcome)) :
    List String :=
  (files.filter (·.2 == outcome)).map (·.1)

/-- The part of the report on the units. -/
def resultLines (report : GenerateReport) : Report :=
  let warnings := report.warnings.map .warning
  match report.result with
  | .written outputDir files debugDir =>
    (match debugDir with
      | some directory => [.pair "Pipeline snapshots written to" directory, .blank]
      | none => []) ++
      warnings ++
      [.pair "Routes" (toString report.declarations), .pair "Generated" outputDir] ++
      fileList "Written" .added (filesWith .written files) ++
      fileList "Unchanged" .item (filesWith .unchanged files)
  | .preview files =>
    warnings ++
      files.flatMap (fun (path, content) => [.divider path, .out content]) ++
      [.divider "Summary", .out (toString files.length ++ " files would be generated")]

def lines (report : GenerateReport) : Report :=
  report.resultLines ++
    if report.deferred.isEmpty then [] else .blank :: Report.deferredList report.deferred

end GenerateReport

end TypedRoutes.Command
