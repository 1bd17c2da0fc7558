import TypedRoutes.Command.Arguments
import TypedRoutes.Command.Explain
import TypedRoutes.Command.Route
import TypedRoutes.Manifest.File

/-!
Running the program on arguments and a file system. Everything a run does is told by what it shows,
the status it ends with, and the file system it leaves behind. A command that fails shows nothing on
standard output, except that a check shows its report whatever it found.
-/
namespace TypedRoutes.Command

open Pipeline

/-- How a run ends, as far as a calling program can see. -/
inductive Status where
  | success
  /-- The command failed, or a check found the manifest wanting. -/
  | failure
  /-- The arguments lead to no command. -/
  | misuse
deriving DecidableEq, Repr

def Status.code : Status → Nat
  | .success => 0
  | .failure => 1
  | .misuse => 2

/-- What a run shows, and the status it ends with. -/
structure Ending where
  status : Status
  report : Report
deriving DecidableEq, Repr

namespace Ending

/-- The ending of a command that did what it was asked. -/
def success (report : Report) : Ending :=
  ⟨.success, report⟩

/-- The ending of a command that could not do what it was asked. -/
def failure (message : String) : Ending :=
  ⟨.failure, [.error message]⟩

/-- The ending of a command on a manifest that cannot be used. -/
def unusable (error : Manifest.Error) : Ending :=
  ⟨.failure, .error error.message :: (error.help?.map (Line.err <| "  help: " ++ ·)).toList⟩

end Ending

def failureMessage : Failure → String
  | .refused message => message
  | .files .notFound => "no such file or directory"
  | .files .notADirectory => "not a directory"
  | .files .isADirectory => "is a directory"
  | .files .notText => "the file is not UTF-8 text"
  | .files .badName => "the file name cannot be used"

def versionText : String := programName ++ " 0.3.0"

def helpReport : Report :=
  [.out "Generate typed navigation route objects from annotated declarations", .blank,
    .pair "Usage" (programName ++ " <COMMAND>"), .blank, .heading "Commands"] ++
    commandNotes.map fun (name, note) => .nested name note

/-- The wording of a usage error that stops the program. -/
def UsageError.message : UsageError → String
  | missingArgument => "a required argument was not given"
  | unknownArgument => "unexpected argument"
  | unknownCommand => "unrecognized command"
  | conflict => "an argument was given twice or beside one that excludes it"
  | invalidValue => "a value is missing or not one of the possible values"
  | surplusValue => "a value was given to an option that takes none"
  | badFieldValue text => text
  | help => "help was asked for"
  | version => "the version was asked for"
  | nothing => "a command is required"

/-- The ending of a run whose arguments lead to no command. Asking for help or for the version is
no misuse. -/
def UsageError.ending : UsageError → Ending
  | help => .success helpReport
  | version => .success [.out versionText]
  | error => ⟨.misuse, [.error error.message]⟩

/-- Runs a command on the manifest file at a path. -/
def onManifest (config : String) (fs : Files.FileSystem) (act : Manifest.File → Ending) : Ending :=
  match Manifest.File.load fs config with
  | .error error => .unusable error
  | .ok file => act file

/-- Generates from a manifest file. A failure keeps what was written before it. -/
def generateFrom (config : String) (options : Manifest.File → GenerateOptions)
    (fs : Files.FileSystem) : Ending × Files.FileSystem :=
  match Manifest.File.load fs config with
  | .error error => (.unusable error, fs)
  | .ok file =>
    match (ExceptT.run (generate file.manifest (options file))).run fs with
    | (.ok report, fs) => (.success report.lines, fs)
    | (.error failure, fs) => (.failure (failureMessage failure), fs)

def Invocation.config? : Invocation → Option String
  | generate config _ _ _ | check config | explain config | route config _ _ => some config
  | completions _ => none

/-- The locations that the program reads first when run on arguments. -/
def sources (arguments : List String) (fs : Files.FileSystem) : List Files.Location :=
  match parseArguments arguments with
  | .ok command => (command.config?.map fs.itinerary).getD []
  | .error _ => []

/-- Runs a command. Only generating changes files. -/
def perform (command : Invocation) (fs : Files.FileSystem) : Ending × Files.FileSystem :=
  match command with
  | .generate config output dryRun visualize =>
    generateFrom config (fun file => ⟨output.getD file.outDir, dryRun, visualize⟩) fs
  | .check config =>
    (onManifest config fs fun file =>
      let report := check file.manifest config
      ⟨if report.isValid then .success else .failure, report.lines⟩, fs)
  | .explain config =>
    (onManifest config fs fun file => .success (explain file.manifest config).lines, fs)
  | .route config declaration values =>
    (onManifest config fs fun file =>
      match route file.manifest declaration values with
      | .ok path => .success (routeLines path)
      | .error error => .failure error.message, fs)
  | .completions shell => (.success [.out shell.script], fs)

/-- Runs the program on arguments. -/
def run (arguments : List String) (fs : Files.FileSystem) : Ending × Files.FileSystem :=
  match parseArguments arguments with
  | .ok command => perform command fs
  | .error error => (error.ending, fs)

end TypedRoutes.Command
