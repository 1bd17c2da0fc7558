import TypedRoutes.Proofs.PassExecution

/-! What a pass files, said without its phases. Every declaration with the
route marker gets one verdict, and the lists of the final context are the
declarations of each verdict in the order of discovery. -/
namespace TypedRoutes.PassOutcome
open Pipeline Route PassExecution

/-- What becomes of one declaration that carries the route marker. There are
three ways only, and each declaration takes one of them by itself. -/
inductive Verdict where
  /-- The host does not vouch for it yet. -/
  | waiting
  /-- The host vouches for it, but it has no descriptor. -/
  | refused (error : BuildError)
  | described (descriptor : Descriptor)

/-- The verdict on a declaration under the settings of the build. It depends on
the declaration alone and not on those around it. -/
def verdict (host : Host) (settings : Manifest.Settings) (declaration : Manifest.Declaration) :
    Verdict :=
  if host.isValid declaration then
    match Descriptor.ofDeclaration settings declaration with
    | .ok descriptor => .described descriptor
    | .error error => .refused error
  else .waiting

namespace Verdict

def isWaiting : Verdict → Bool
  | waiting => true
  | _ => false

def isRefused : Verdict → Bool
  | refused _ => true
  | _ => false

def descriptor? : Verdict → Option Descriptor
  | described descriptor => some descriptor
  | _ => none

end Verdict

section Lists
variable (host : Host) (settings : Manifest.Settings)

/-- The declarations that the host does not vouch for, whatever their markers
and properties are like. -/
def waiting (declarations : List Manifest.Declaration) : List DeclarationId :=
  (declarations.filter fun declaration => (verdict host settings declaration).isWaiting).map (·.id)

/-- The declarations without a descriptor that the host vouches for. -/
def refused (declarations : List Manifest.Declaration) : List DeclarationId :=
  (declarations.filter fun declaration => (verdict host settings declaration).isRefused).map (·.id)

/-- The descriptors of the declarations that have one, in the order of the
declarations. -/
def described (declarations : List Manifest.Declaration) : List Descriptor :=
  declarations.filterMap fun declaration => (verdict host settings declaration).descriptor?

/-- Everything a pass files when it discovers under one marker and builds
under some settings. The units are what `Emitter.emit` makes of the descriptors,
in whatever language, and all of them depend on every source file. -/
def outcome (emitter : Emitter) (marker : String) : Context :=
  let discovered := host.marked marker
  let rejected := refused host settings discovered
  { settings := {}
    sourceFiles := host.sourceFiles
    discovered
    invalid := waiting host settings discovered
    rejected
    descriptors := described host settings discovered
    units := (described host settings discovered).map fun descriptor =>
      { emitter.emit descriptor with dependencies := .all host.sourceFiles }
    retry := (discovered.filter fun declaration =>
      !host.isValid declaration || rejected.contains declaration.id).map (·.id) }

end Lists

variable (host : Host)

/-- Building one declaration files it under its verdict, at the end of one list,
and leaves the others alone. -/
theorem buildOne_files (context : Context) (declaration : Manifest.Declaration) :
    (context.buildOne host declaration).settings = context.settings ∧
      filed (context.buildOne host declaration) =
        { filed context with
          invalid := context.invalid ++ waiting host context.settings [declaration]
          rejected := context.rejected ++ refused host context.settings [declaration]
          descriptors := context.descriptors ++ described host context.settings [declaration] } := by
  by_cases valid : host.isValid declaration = true
  · cases built : Descriptor.ofDeclaration context.settings declaration with
    | error error =>
      simp [Context.buildOne, Context.report, filed, waiting, refused, described, verdict, valid,
        built, Verdict.isWaiting, Verdict.isRefused, Verdict.descriptor?]
    | ok descriptor =>
      simp [Context.buildOne, filed, waiting, refused, described, verdict, valid,
        built, Verdict.isWaiting, Verdict.isRefused, Verdict.descriptor?]
  · simp [Context.buildOne, Context.report, filed, waiting, refused, described, verdict, valid,
      Verdict.isWaiting, Verdict.isRefused, Verdict.descriptor?]

/-- The build loop files every declaration under its verdict. The settings it
reads are those it started with, since no step of the loop changes them. -/
theorem build_loop_files (declarations : List Manifest.Declaration) (context : Context) :
    filed (declarations.foldl (Context.buildOne host) context) =
      { filed context with
        invalid := context.invalid ++ waiting host context.settings declarations
        rejected := context.rejected ++ refused host context.settings declarations
        descriptors := context.descriptors ++ described host context.settings declarations } := by
  induction declarations generalizing context with
  | nil => simp [waiting, refused, described, filed]
  | cons declaration rest ih =>
    obtain ⟨settings, first⟩ := buildOne_files host context declaration
    have invalid := congrArg Context.invalid first
    have rejected := congrArg Context.rejected first
    have descriptors := congrArg Context.descriptors first
    simp only [filed] at invalid rejected descriptors
    rw [List.foldl_cons, ih, first, settings, invalid, rejected, descriptors]
    simp only [waiting, refused, described, List.append_assoc]
    simp only [← List.map_append, ← List.filter_append, ← List.filterMap_append,
      List.singleton_append]

private theorem classify_files (context : Context) :
    filed (context.classify host) =
      { filed context with
        retry := (context.discovered.filter fun declaration =>
          !host.isValid declaration || context.rejected.contains declaration.id).map (·.id) } := by
  simp only [Context.classify]
  split <;> rfl

variable {host}

/-- Whatever happens to settings and diagnostics between the standard phases,
they file the outcome under the marker that was in force when declarations were
discovered and the settings that were in force when they were built. -/
theorem phases_file {lints : List Lint} {emitter : Emitter}
    {discovering building linting emitting classifying final : Context}
    (start : filed discovering = filed (.initial host))
    (discovered : filed building = filed (discovering.discover host))
    (built : filed linting = filed (building.build host))
    (linted : filed emitting = filed (linting.validate lints))
    (emitted : filed classifying = filed (emitting.emit emitter))
    (classified : filed final = filed (classifying.classify host)) :
    filed final =
      outcome host building.settings emitter discovering.settings.routeMarker := by
  have discover : filed building =
      { filed (.initial host) with
        sourceFiles := host.sourceFiles
        discovered := host.marked discovering.settings.routeMarker } := by
    rw [discovered, ← start]
    rfl
  have build : filed linting =
      { filed building with
        invalid := (filed building).invalid ++
          waiting host building.settings (filed building).discovered
        rejected := (filed building).rejected ++
          refused host building.settings (filed building).discovered
        descriptors := (filed building).descriptors ++
          described host building.settings (filed building).discovered } := by
    rw [built]
    exact build_loop_files host building.discovered building
  have lint : filed emitting = filed linting := linted
  have emit : filed classifying =
      { filed emitting with
        units := (filed emitting).descriptors.map fun descriptor =>
          { emitter.emit descriptor with
            dependencies := .all (filed emitting).sourceFiles } } := emitted
  have classify : filed final =
      { filed classifying with
        retry := ((filed classifying).discovered.filter fun declaration =>
          !host.isValid declaration ||
            (filed classifying).rejected.contains declaration.id).map (·.id) } := by
    rw [classified]
    exact classify_files host classifying
  rw [classify, emit, lint, build, discover]
  simp [outcome, filed, Context.initial]

/-- The standard phases on their own file the outcome under the host's settings,
since nothing has changed them. -/
theorem settle_files (lints : List Lint) (emitter : Emitter) :
    filed (settle host lints emitter) =
      outcome host host.settings emitter host.settings.routeMarker := by
  let discovered := (Context.initial host).discover host
  let built := discovered.build host
  let linted := built.validate lints
  have start : filed (.initial host) = filed (.initial host) := rfl
  have linting : filed linted = filed (built.validate lints) := rfl
  have classified : filed (settle host lints emitter) =
    filed ((linted.emit emitter).classify host) := rfl
  have files := phases_file start (rfl : filed discovered = _) (rfl : filed built = _) linting
    (rfl : filed (linted.emit emitter) = _) classified
  exact files

/-- A pass opened at its standard phases: between two of them plugins keep what
they keep, and the further phases follow the last one. -/
theorem run_opened {σ β : Type} {view : Context → β} {generator : Generator σ}
    (keep : ∀ plugin ∈ generator.plugins, KeepsAtHooks view plugin)
    {context : Context} {state final : σ}
    (ran : Succeeds (generator.run host) state context final) :
    ∃ discovering building linting emitting classifying classified between,
      view discovering = view (.initial host) ∧
      view building = view (discovering.discover host) ∧
      view linting = view (building.build host) ∧
      view emitting = view (linting.validate generator.lints) ∧
      view classifying = view (emitting.emit generator.emitter) ∧
      view classified = view (classifying.classify host) ∧
      Succeeds (runSteps (generator.phases.flatMap (phaseSteps generator.plugins)) classified)
        between context final := by
  simp only [Generator.run, Generator.schedule, Generator.allPhases, standardPhases,
    List.cons_append, List.nil_append, List.flatMap_cons] at ran
  obtain ⟨c₁, s₁, discover, ran⟩ := runSteps_append.mp ran
  obtain ⟨c₂, s₂, build, ran⟩ := runSteps_append.mp ran
  obtain ⟨c₃, s₃, validate, ran⟩ := runSteps_append.mp ran
  obtain ⟨c₄, s₄, emit, ran⟩ := runSteps_append.mp ran
  obtain ⟨c₅, s₅, classify, rest⟩ := runSteps_append.mp ran
  obtain ⟨discovering, start, discovered⟩ := pure_phase_between_hooks keep discover
  obtain ⟨building, found, built⟩ := pure_phase_between_hooks keep build
  obtain ⟨linting, made, linted⟩ := pure_phase_between_hooks keep validate
  obtain ⟨emitting, passed, emitted⟩ := pure_phase_between_hooks keep emit
  obtain ⟨classifying, rendered, classified⟩ := pure_phase_between_hooks keep classify
  exact ⟨discovering, building, linting, emitting, classifying, c₅, s₅, start,
    found.trans discovered, made.trans built, passed.trans linted, rendered.trans emitted,
    classified, rest⟩

/-- A pass whose plugins and further phases leave alone what is filed ends with
the outcome under a marker and settings that were in force on the way. These
need not be those of the host, or go together. -/
theorem run_files {σ : Type} {generator : Generator σ}
    (restrained : ∀ plugin ∈ generator.plugins, Restrained plugin)
    (further : ∀ phase ∈ generator.phases, LeavesFiled phase.run)
    {context : Context} {state final : σ}
    (ran : Succeeds (generator.run host) state context final) :
    ∃ settings marker, filed context = outcome host settings generator.emitter marker := by
  obtain ⟨discovering, building, linting, emitting, classifying, classified, between, start,
    found, made, passed, rendered, settled, rest⟩ :=
    run_opened (fun plugin member => (restrained plugin member).keeps) ran
  have kept := phases_leave_filed restrained further rest
  exact ⟨building.settings, discovering.settings.routeMarker,
    phases_file start found made passed rendered (kept.trans settled)⟩

/-- A pass whose plugins besides leave the settings alone ends with the outcome
under the settings of the host. -/
theorem run_files_configured {σ : Type} {generator : Generator σ}
    (keep : ∀ plugin ∈ generator.plugins, KeepsAtHooks configured plugin)
    (further : ∀ phase ∈ generator.phases, LeavesFiled phase.run)
    {context : Context} {state final : σ}
    (ran : Succeeds (generator.run host) state context final) :
    filed context = outcome host host.settings generator.emitter host.settings.routeMarker := by
  obtain ⟨discovering, building, linting, emitting, classifying, classified, between, start,
    found, made, passed, rendered, settled, rest⟩ := run_opened keep ran
  have discovered : discovering.settings = host.settings := congrArg Prod.snd start
  have built : building.settings = host.settings := (congrArg Prod.snd found).trans discovered
  have kept := phases_leave_filed (fun plugin member => (keep plugin member).restrained) further
    rest
  rw [phases_file (congrArg Prod.fst start) (congrArg Prod.fst found) (congrArg Prod.fst made)
    (congrArg Prod.fst passed) (congrArg Prod.fst rendered)
    (kept.trans (congrArg Prod.fst settled)), discovered, built]

/-- A pass whose plugins leave the context as it is ends as it does on its own,
with the diagnostics of the standard phases and no others. -/
theorem run_settles {σ : Type} {generator : Generator σ}
    (keep : ∀ plugin ∈ generator.plugins, KeepsAtHooks id plugin) (bare : generator.phases = [])
    {context : Context} {state final : σ}
    (ran : Succeeds (generator.run host) state context final) :
    context = settle host generator.lints generator.emitter := by
  obtain ⟨_, _, _, _, _, classified, between, rfl, rfl, rfl, rfl, rfl, settled, rest⟩ :=
    run_opened keep ran
  rw [bare] at rest
  obtain ⟨rfl, -⟩ := succeeds_pure.mp rest
  exact settled

end TypedRoutes.PassOutcome
