import TypedRoutes.Files.Overwrite
import TypedRoutes.Pipeline.Context
import TypedRoutes.Pipeline.Lint
import TypedRoutes.Route.Build

/-!
Phases and plugins. A phase extends the context; a plugin is called before and after every phase and
may change the context, act on a state of its own, or stop the pass. What was done to that state
before a failure stays done.
-/
namespace TypedRoutes.Pipeline

open Route

/-- Why a pass stopped. -/
inductive Failure where
  /-- A phase or plugin gave up. -/
  | refused (message : String)
  /-- A file operation failed. -/
  | files (error : Files.FileError)
deriving DecidableEq, Repr

/-- An action on a state that may stop a pass. What it did to the state before it stops is kept. -/
abbrev Run (σ α : Type) := ExceptT Failure (StateM σ) α

namespace Run

/-- An action on the first part of a state. -/
def onFirst {σ τ α : Type} (action : Run σ α) : Run (σ × τ) α :=
  ExceptT.mk fun (first, second) =>
    let (result, first) := (ExceptT.run action).run first
    (result, (first, second))

/-- An action on the second part of a state. -/
def onSecond {σ τ α : Type} (action : Run τ α) : Run (σ × τ) α :=
  ExceptT.mk fun (first, second) =>
    let (result, second) := (ExceptT.run action).run second
    (result, (first, second))

/-- A file operation as an action on the file system. -/
def ofFiles {α : Type} (action : Files.FileAction α) : Run Files.FileSystem α :=
  ExceptT.mk fun fs =>
    let (result, fs) := (ExceptT.run action).run fs
    (result.mapError .files, fs)

end Run

/-- A step of a pass. A listing of phases tells of each by this name and this description; there are
no other words for a phase than those under which it is run. -/
structure Phase (σ : Type) where
  name : String
  description : String
  run : Context → Run σ Context

/-- Hooks around every phase. A plugin is told which phase it is called for by its name. -/
structure Plugin (σ : Type) where
  name : String
  /-- Called before the phase of the given name. -/
  before : String → Context → Run σ Context := fun _ context => pure context
  /-- Called after the phase of the given name. -/
  after : String → Context → Run σ Context := fun _ context => pure context

/-- A plugin that acts on the first part of a state. -/
def Plugin.onFirst {σ : Type} (τ : Type) (plugin : Plugin σ) : Plugin (σ × τ) where
  name := plugin.name
  before phase context := (plugin.before phase context).onFirst
  after phase context := (plugin.after phase context).onFirst

/-- A plugin that acts on the second part of a state. -/
def Plugin.onSecond {τ : Type} (σ : Type) (plugin : Plugin τ) : Plugin (σ × τ) where
  name := plugin.name
  before phase context := (plugin.before phase context).onSecond
  after phase context := (plugin.after phase context).onSecond

/-- Takes from the host the source files and the declarations with the route marker. -/
def Context.discover (host : Host) (context : Context) : Context :=
  let discovered := host.marked context.settings.routeMarker
  { context with sourceFiles := host.sourceFiles, discovered }.report {
    severity := .info
    phase := "discover"
    message := "found " ++ toString discovered.length ++ " declaration(s) marked @" ++
      context.settings.routeMarker }

/-- Files one declaration: as invalid when the host does not vouch for it, as rejected when it has
no descriptor, otherwise under its descriptor. -/
def Context.buildOne (host : Host) (context : Context) (declaration : Manifest.Declaration) :
    Context :=
  let id := declaration.id
  if !host.isValid declaration then
    { context with invalid := context.invalid ++ [id] }.report {
      severity := .info
      phase := "build"
      message := "'" ++ id.qualified ++ "' is not resolved yet, deferring"
      location := some id.qualified }
  else
    match Descriptor.ofDeclaration context.settings declaration with
    | .ok descriptor => { context with descriptors := context.descriptors ++ [descriptor] }
    | .error error =>
      { context with rejected := context.rejected ++ [id] }.report {
        severity := .error
        phase := "build"
        message := error.message
        location := some id.qualified }

/-- Files every discovered declaration in order, under the settings in force. -/
def Context.build (host : Host) (context : Context) : Context :=
  context.discovered.foldl (Context.buildOne host) context

/-- Lets every lint report on the descriptors. -/
def Context.validate (lints : List Lint) (context : Context) : Context :=
  { context with
    diagnostics := context.diagnostics ++ lints.flatMap (·.check context.descriptors) }

/-- Renders one unit per descriptor. Every unit depends on all source files in view. -/
def Context.emit (emitter : Emitter) (context : Context) : Context :=
  { context with
    units := context.descriptors.map fun descriptor =>
      { emitter.emit descriptor with dependencies := .all context.sourceFiles } }

/-- Puts aside for a later round what the host does not vouch for and what was rejected. -/
def Context.classify (host : Host) (context : Context) : Context :=
  let retry := (context.discovered.filter fun declaration =>
    !host.isValid declaration || context.rejected.contains declaration.id).map (·.id)
  let reported :=
    if retry.isEmpty then context
    else context.report {
      severity := .info
      phase := "classify"
      message := toString retry.length ++ " declaration(s) deferred to a later round" }
  { reported with retry }

/-- The phases of every pass, in order. -/
def standardPhases (σ : Type) (host : Host) (lints : List Lint) (emitter : Emitter) :
    List (Phase σ) := [
  ⟨"discover", "Collect route-marked declarations from the host",
    fun context => pure (context.discover host)⟩,
  ⟨"build", "Build route descriptors from valid declarations",
    fun context => pure (context.build host)⟩,
  ⟨lintPhase, "Lint route descriptors and collect diagnostics",
    fun context => pure (context.validate lints)⟩,
  ⟨"emit", "Render one source unit per descriptor",
    fun context => pure (context.emit emitter)⟩,
  ⟨"classify", "Compute the declarations to retry in a later round",
    fun context => pure (context.classify host)⟩]

end TypedRoutes.Pipeline
