import TypedRoutes.Pipeline.Phase

/-!
Passes. A pass is a schedule of calls carried out in order on one context: for every phase the
plugins before it, the phase itself, and the plugins after it. The first call that fails ends the
pass, and only a pass that did not fail hands its units to a writer.
-/
namespace TypedRoutes.Pipeline

/-- What is called in one step of a pass, by name. -/
inductive Call where
  | before (plugin phase : String)
  | phase (name : String)
  | after (plugin phase : String)
deriving DecidableEq, Repr

/-- One call of a pass, with what it does to the context. -/
structure Step (σ : Type) where
  call : Call
  run : Context → Run σ Context

/-- A generator: a target language, lints, and what is added to the standard phases. Further phases
come behind the standard ones. -/
structure Generator (σ : Type) where
  emitter : Emitter
  lints : List Lint := standardLints
  /-- Phases to run after the standard ones. -/
  phases : List (Phase σ) := []
  plugins : List (Plugin σ) := []

/-- A writer that units are handed to one by one, and that says what became of each. -/
abbrev Writer (σ : Type) := GeneratedUnit → Run σ Files.WriteOutcome

/-- A unit that was handed to a writer, and what became of it. -/
structure WrittenUnit where
  source : Route.DeclarationId
  path : String
  outcome : Files.WriteOutcome
deriving DecidableEq, Repr

/-- The result of a pass that did not fail: its final context, and a record of every unit. -/
structure Outcome where
  context : Context
  written : List WrittenUnit

/-- Whether a pass leaves nothing for a later round. -/
def Outcome.isComplete (outcome : Outcome) : Bool :=
  outcome.context.retry.isEmpty

/-- The calls around and of one phase: every plugin before it, the phase, and every plugin after
it. -/
def phaseSteps {σ : Type} (plugins : List (Plugin σ)) (phase : Phase σ) : List (Step σ) :=
  plugins.map (fun plugin => ⟨.before plugin.name phase.name, plugin.before phase.name⟩) ++
    [⟨.phase phase.name, phase.run⟩] ++
    plugins.map fun plugin => ⟨.after plugin.name phase.name, plugin.after phase.name⟩

/-- Carries out steps in order until one fails. The steps behind that one are not carried out. -/
def runSteps {σ : Type} : List (Step σ) → Context → Run σ Context
  | [], context => pure context
  | step :: rest, context => do runSteps rest (← step.run context)

namespace Generator

/-- All phases of a pass over a host, in order. -/
def allPhases {σ : Type} (generator : Generator σ) (host : Host) : List (Phase σ) :=
  standardPhases σ host generator.lints generator.emitter ++ generator.phases

/-- The calls of a pass over a host, in order. -/
def schedule {σ : Type} (generator : Generator σ) (host : Host) : List (Step σ) :=
  (generator.allPhases host).flatMap (phaseSteps generator.plugins)

/-- Runs a pass without writing anything. -/
def run {σ : Type} (generator : Generator σ) (host : Host) : Run σ Context :=
  runSteps (generator.schedule host) (.initial host)

/-- Runs a pass and hands every unit to a writer. -/
def process {σ : Type} (generator : Generator σ) (host : Host) (write : Writer σ) :
    Run σ Outcome := do
  let context ← generator.run host
  let written ← context.units.mapM fun unit => do
    return { source := unit.source, path := unit.relativePath, outcome := ← write unit }
  return { context, written }

end Generator

/-- The final context of a pass that only has the standard phases, which cannot fail. -/
def settle (host : Host) (lints : List Lint) (emitter : Emitter) : Context :=
  ((((Context.initial host).discover host).build host).validate lints).emit emitter
    |>.classify host

/-- A pass without plugins and further phases ends in the settled context. -/
theorem Generator.run_standard {σ : Type} (emitter : Emitter) (lints : List Lint) (host : Host) :
    ({ emitter, lints } : Generator σ).run host = pure (settle host lints emitter) :=
  rfl

end TypedRoutes.Pipeline
