import Mathlib.Data.List.Forall2
import TypedRoutes.Pipeline.Snapshot
import TypedRoutes.Proofs.PassEnding

/-! A recorder watches a pass without a part in it. Wherever it stands among
the plugins, the pass has the same result, leaves the same state, and makes the
same calls to the others. There is one snapshot for every phase that gets as far
as the recorder, and what it holds is told list by list of the context that the
recorder is handed there. -/
namespace TypedRoutes.SnapshotObservation
open Pipeline PassExecution PassEnding

variable {σ τ α β : Type}

/-! ## Passes on a larger state -/

/-- An action on a larger state that does, in a view of that state, what another
action does. Both fail together, and with the same failure. -/
def Shadows (view : τ → σ) (above : Run τ α) (below : Run σ α) : Prop :=
  ∀ state, ((ExceptT.run above).run state).1 = ((ExceptT.run below).run (view state)).1 ∧
    view ((ExceptT.run above).run state).2 = ((ExceptT.run below).run (view state)).2

namespace Shadows
variable {view : τ → σ}

private theorem pure (value : α) : Shadows view (pure value) (pure value) :=
  fun _ => ⟨rfl, rfl⟩

private theorem bind {above : Run τ α} {below : Run σ α} {nextAbove : α → Run τ β}
    {nextBelow : α → Run σ β} (first : Shadows view above below)
    (next : ∀ value, Shadows view (nextAbove value) (nextBelow value)) :
    Shadows view (above >>= nextAbove) (below >>= nextBelow) := by
  intro state
  rw [run_bind, run_bind]
  have here := first state
  cases ranAbove : (ExceptT.run above).run state with
  | mk result between =>
    cases ranBelow : (ExceptT.run below).run (view state) with
    | mk result' between' =>
      rw [ranAbove, ranBelow] at here
      obtain ⟨rfl, rfl⟩ := here
      cases result with
      | error failure => exact ⟨rfl, rfl⟩
      | ok value => exact next value between

private theorem mapM {above : α → Run τ β} {below : α → Run σ β}
    (each : ∀ element, Shadows view (above element) (below element)) (elements : List α) :
    Shadows view (elements.mapM above) (elements.mapM below) := by
  induction elements with
  | nil => exact .pure []
  | cons first rest ih =>
    rw [List.mapM_cons, List.mapM_cons]
    exact .bind (each first) fun result => .bind ih fun results => .pure _

/-- Beside a further part of the state nothing changes, so views can be put on
top of each other. -/
theorem onFirst {above : Run τ α} {below : Run σ α} (shadows : Shadows view above below)
    (υ : Type) : Shadows (Prod.map view (id : υ → υ)) above.onFirst below.onFirst := by
  intro state
  obtain ⟨result, final⟩ := shadows state.1
  exact ⟨result, Prod.ext final rfl⟩

private theorem agree {above : Run τ α} {below : Run σ α} (shadows : Shadows view above below)
    {state final : τ} {seen : σ} {result other : Except Failure α}
    (ranAbove : (ExceptT.run above).run state = (result, final))
    (ranBelow : (ExceptT.run below).run (view state) = (other, seen)) :
    result = other ∧ view final = seen := by
  have same := shadows state
  rw [ranAbove, ranBelow] at same
  exact same

end Shadows

private theorem onFirst_shadows (action : Run σ α) :
    Shadows (Prod.fst (β := τ)) action.onFirst action :=
  fun _ => ⟨rfl, rfl⟩

private theorem noting_shadows (event : Event) (action : Run σ α) :
    Shadows Prod.fst (noting event action) action :=
  fun _ => ⟨rfl, rfl⟩

private theorem onFirst_bind (action : Run σ α) (next : α → Run σ β) :
    (action >>= next).onFirst (τ := τ) = action.onFirst >>= fun value => (next value).onFirst := by
  refine ExceptT.ext (StateT.ext fun state => ?_)
  rw [run_bind, run_onFirst, run_onFirst, run_bind]
  rcases (ExceptT.run action).run state.1 with ⟨failure | middle, between⟩ <;> rfl

/-- Two plugins whose hooks do the same in a view of the state, before and after
every phase. -/
structure PluginShadows (view : τ → σ) (above : Plugin τ) (below : Plugin σ) : Prop where
  before : ∀ phase context, Shadows view (above.before phase context) (below.before phase context)
  after : ∀ phase context, Shadows view (above.after phase context) (below.after phase context)

/-- Two phases of one name that do the same in a view of the state. Plugins are
told the name, so it must not change. -/
structure PhaseShadows (view : τ → σ) (above : Phase τ) (below : Phase σ) : Prop where
  name : above.name = below.name
  run : ∀ context, Shadows view (above.run context) (below.run context)

/-- Two generators that do the same in every single call. Their plugins and
phases are matched in order. -/
structure GeneratorShadows (view : τ → σ) (above : Generator τ) (below : Generator σ) : Prop where
  emitter : above.emitter = below.emitter
  lints : above.lints = below.lints
  phases : List.Forall₂ (PhaseShadows view) above.phases below.phases
  plugins : List.Forall₂ (PluginShadows view) above.plugins below.plugins

section Passes
variable {view : τ → σ}

/-- Steps that do the same on every context, whatever they are labelled. -/
def StepShadows (view : τ → σ) (above : Step τ) (below : Step σ) : Prop :=
  ∀ context, Shadows view (above.run context) (below.run context)

/-- Step by step the same is done, so the same is done by all of them together.
-/
theorem runSteps_shadows {above : List (Step τ)} {below : List (Step σ)}
    (each : List.Forall₂ (StepShadows view) above below) (context : Context) :
    Shadows view (runSteps above context) (runSteps below context) := by
  induction each generalizing context with
  | nil => exact .pure context
  | cons step _ ih => exact .bind (step context) ih

private theorem phaseSteps_shadow {pluginsAbove : List (Plugin τ)} {pluginsBelow : List (Plugin σ)}
    (plugins : List.Forall₂ (PluginShadows view) pluginsAbove pluginsBelow)
    {above : Phase τ} {below : Phase σ} (phase : PhaseShadows view above below) :
    List.Forall₂ (StepShadows view) (phaseSteps pluginsAbove above)
      (phaseSteps pluginsBelow below) := by
  have hooks {hookAbove : Plugin τ → Step τ} {hookBelow : Plugin σ → Step σ}
      (same : ∀ above below, PluginShadows view above below →
        StepShadows view (hookAbove above) (hookBelow below)) :
      List.Forall₂ (StepShadows view) (pluginsAbove.map hookAbove)
        (pluginsBelow.map hookBelow) := by
    rw [List.forall₂_map_left_iff, List.forall₂_map_right_iff]
    exact plugins.imp same
  have own : StepShadows view ⟨.phase above.name, above.run⟩ ⟨.phase below.name, below.run⟩ :=
    phase.run
  refine List.rel_append (List.rel_append (hooks ?_) (.cons own .nil)) (hooks ?_)
  · intro above below plugin
    rw [phase.name]
    exact plugin.before _
  · intro above below plugin
    rw [phase.name]
    exact plugin.after _

private theorem standardPhases_shadow (view : τ → σ) (host : Host) (lints : List Lint)
    (emitter : Emitter) : List.Forall₂ (PhaseShadows view) (standardPhases τ host lints emitter)
      (standardPhases σ host lints emitter) := by
  have computed (name description : String) (change : Context → Context) : PhaseShadows view
      ⟨name, description, fun context => pure (change context)⟩
      ⟨name, description, fun context => pure (change context)⟩ :=
    ⟨rfl, fun context => .pure (change context)⟩
  exact .cons (computed ..) (.cons (computed ..) (.cons (computed ..)
    (.cons (computed ..) (.cons (computed ..) .nil))))

/-- Passes of generators that do the same in every call do the same. Nothing is
assumed about what the calls do, or about whether they come to an end. -/
theorem GeneratorShadows.process {above : Generator τ} {below : Generator σ}
    (generators : GeneratorShadows view above below) {writeAbove : Writer τ} {write : Writer σ}
    (writes : ∀ unit, Shadows view (writeAbove unit) (write unit)) (host : Host) :
    Shadows view (above.process host writeAbove) (below.process host write) := by
  have phases : List.Forall₂ (PhaseShadows view) (above.allPhases host) (below.allPhases host) := by
    rw [Generator.allPhases, Generator.allPhases, generators.emitter, generators.lints]
    exact List.rel_append (standardPhases_shadow view ..) generators.phases
  have steps : List.Forall₂ (StepShadows view) (above.schedule host) (below.schedule host) :=
    List.rel_flatMap phases fun _ _ phase => phaseSteps_shadow generators.plugins phase
  refine .bind (runSteps_shadows steps _) fun context => ?_
  refine .bind (.mapM (fun unit => ?_) _) fun written => .pure _
  exact .bind (writes unit) fun outcome => .pure _

end Passes

/-! ## Watched passes -/

/-- A phase that acts on the first part of a state and does not see the second.
-/
def phaseOnFirst (τ : Type) (phase : Phase σ) : Phase (σ × τ) where
  name := phase.name
  description := phase.description
  run context := (phase.run context).onFirst

/-- A writer that acts on the first part of a state and does not see the second.
-/
def writerOnFirst (τ : Type) (write : Writer σ) : Writer (σ × τ) := fun unit =>
  (write unit).onFirst

/-- A generator whose plugins note the calls that are made to them. A recorder
is not one of these plugins and notes nothing. -/
def noted (generator : Generator σ) : Generator (σ × List Event) where
  emitter := generator.emitter
  lints := generator.lints
  phases := generator.phases.map (phaseOnFirst _)
  plugins := generator.plugins.map notedPlugin

/-- Plugins with a recorder behind some of them and in front of the others. They
act on one part of the state, the recorder on the other. -/
def recording (first second : List (Plugin σ)) : List (Plugin (σ × List Snapshot)) :=
  first.map (·.onFirst _) ++ Snapshot.recorder.onSecond σ :: second.map (·.onFirst _)

/-- A generator with a recorder at a position among its plugins, in front of all
of them or behind them included. -/
def watched (generator : Generator σ) (position : Nat) : Generator (σ × List Snapshot) where
  emitter := generator.emitter
  lints := generator.lints
  phases := generator.phases.map (phaseOnFirst _)
  plugins := recording (generator.plugins.take position) (generator.plugins.drop position)

/-- The call of a plugin before a phase. -/
def beforeStep (phase : String) (plugin : Plugin σ) : Step σ :=
  ⟨.before plugin.name phase, plugin.before phase⟩

/-- The call of a plugin after a phase. -/
def afterStep (phase : String) (plugin : Plugin σ) : Step σ :=
  ⟨.after plugin.name phase, plugin.after phase⟩

/-- The calls of a phase up to the place behind the first plugins' after-hooks.
The context that they lead to is the one that a recorder at this place is
handed. -/
def opening (first second : List (Plugin σ)) (phase : Phase σ) : List (Step σ) :=
  (first ++ second).map (beforeStep phase.name) ++ [⟨.phase phase.name, phase.run⟩] ++
    first.map (afterStep phase.name)

/-- The calls of a phase from that place on, which the recorder does not see. -/
def closing (second : List (Plugin σ)) (phase : Phase σ) : List (Step σ) :=
  second.map (afterStep phase.name)

private theorem phaseSteps_eq (first second : List (Plugin σ)) (phase : Phase σ) :
    phaseSteps (first ++ second) phase = opening first second phase ++ closing second phase := by
  rw [opening, closing, List.append_assoc, ← List.map_append]
  rfl

/-- What a snapshot says of the context that a phase has come to: the phase that
it is named after, and each list that it holds. Nothing of the snapshot is left
open, so no two of them show one context. -/
structure Shows (snapshot : Snapshot) (phase : String) (context : Context) : Prop where
  named : snapshot.phase = phase
  discovered : snapshot.discovered =
    context.discovered.map fun declaration => ⟨declaration.package, declaration.name⟩
  descriptors : snapshot.descriptors = context.descriptors
  units : snapshot.units = context.units.map (·.relativePath)
  retry : snapshot.retry = context.retry
  diagnostics : snapshot.diagnostics = context.diagnostics

/-- The snapshots of a pass over phases, from a context and a state on: one for
every phase whose after-hooks come as far as the recorder, which stands between
the first and the second plugins. -/
inductive Captured (first second : List (Plugin σ)) :
    List (Phase σ) → Context → σ → List Snapshot → Prop where
  | done {context : Context} {state : σ} : Captured first second [] context state []
  /-- A call in front of the recorder fails. -/
  | unreached {phase : Phase σ} {rest : List (Phase σ)} {context : Context} {state final : σ}
      {failure : Failure}
      (failed : Fails (runSteps (opening first second phase) context) state failure final) :
      Captured first second (phase :: rest) context state []
  /-- A call behind the recorder fails. -/
  | stopped {phase : Phase σ} {rest : List (Phase σ)} {context reached : Context}
      {state between final : σ} {failure : Failure} {snapshot : Snapshot}
      (opened : Succeeds (runSteps (opening first second phase) context) state reached between)
      (shows : Shows snapshot phase.name reached)
      (failed : Fails (runSteps (closing second phase) reached) between failure final) :
      Captured first second (phase :: rest) context state [snapshot]
  | passed {phase : Phase σ} {rest : List (Phase σ)} {context reached after : Context}
      {state between stop : σ} {snapshot : Snapshot} {snapshots : List Snapshot}
      (opened : Succeeds (runSteps (opening first second phase) context) state reached between)
      (shows : Shows snapshot phase.name reached)
      (closed : Succeeds (runSteps (closing second phase) reached) between after stop)
      (others : Captured first second rest after stop snapshots) :
      Captured first second (phase :: rest) context state (snapshot :: snapshots)

/-- A step that acts on the first part of a state, under the same label. -/
def stepOnFirst (τ : Type) (step : Step σ) : Step (σ × τ) where
  call := step.call
  run context := (step.run context).onFirst

private theorem runSteps_onFirst (steps : List (Step σ)) (context : Context) :
    runSteps (steps.map (stepOnFirst τ)) context = (runSteps steps context).onFirst := by
  induction steps generalizing context with
  | nil => rfl
  | cons step rest ih =>
    rw [runSteps, onFirst_bind, List.map_cons, runSteps]
    exact congrArg _ (funext ih)

private theorem runSteps_bind (first second : List (Step σ)) (context : Context) :
    runSteps (first ++ second) context = runSteps first context >>= runSteps second := by
  induction first generalizing context with
  | nil => rw [runSteps, pure_bind, List.nil_append]
  | cons step rest ih =>
    rw [List.cons_append, runSteps, runSteps, bind_assoc]
    exact congrArg _ (funext ih)

/-- The calls of a watched phase: those in front of the recorder, the recorder,
and those behind it. Before the phase the recorder does nothing. -/
theorem watched_phase (first second : List (Plugin σ)) (phase : Phase σ) (context : Context) :
    runSteps (phaseSteps (recording first second) (phaseOnFirst _ phase)) context =
      (runSteps (opening first second phase) context).onFirst >>= fun reached =>
        (Snapshot.recorder.onSecond σ).after phase.name reached >>= fun reached =>
          (runSteps (closing second phase) reached).onFirst := by
  have steps : phaseSteps (recording first second) (phaseOnFirst _ phase) =
      (first.map (beforeStep phase.name)).map (stepOnFirst _) ++
        beforeStep phase.name (Snapshot.recorder.onSecond σ) ::
          ((second.map (beforeStep phase.name) ++ ⟨.phase phase.name, phase.run⟩ ::
            first.map (afterStep phase.name)).map (stepOnFirst _) ++
              afterStep phase.name (Snapshot.recorder.onSecond σ) ::
                (closing second phase).map (stepOnFirst _)) := by
    simp only [phaseSteps, recording, closing, List.map_append, List.map_cons, List.map_map,
      List.append_assoc, List.cons_append, List.nil_append]
    rfl
  have opened : (first.map (beforeStep phase.name)).map (stepOnFirst (List Snapshot)) ++
      (second.map (beforeStep phase.name) ++ ⟨.phase phase.name, phase.run⟩ ::
        first.map (afterStep phase.name)).map (stepOnFirst _) =
          (opening first second phase).map (stepOnFirst _) := by
    simp only [opening, List.map_append, List.append_assoc, List.cons_append, List.nil_append]
  have quiet (others : List (Step (σ × List Snapshot))) (context : Context) :
      runSteps (beforeStep phase.name (Snapshot.recorder.onSecond σ) :: others) context =
        runSteps others context :=
    pure_bind ..
  rw [steps, runSteps_bind, funext (quiet _), ← runSteps_bind, ← List.append_assoc, opened,
    runSteps_bind, runSteps_onFirst]
  simp only [runSteps, runSteps_onFirst]
  rfl

private theorem ran_ok {ε : Type} {action : ExceptT ε (StateM σ) α} {state final : σ} {value : α}
    (ran : Succeeds action state value final) :
    (ExceptT.run action).run state = (.ok value, final) :=
  ran

private theorem ran_error {ε : Type} {action : ExceptT ε (StateM σ) α} {state final : σ}
    {failure : ε}
    (failed : Fails action state failure final) :
    (ExceptT.run action).run state = (.error failure, final) :=
  failed

/-- What is captured of a context shows it, down to the last list. -/
theorem capture_shows (phase : String) (context : Context) :
    Shows (.capture phase context) phase context :=
  ⟨rfl, rfl, rfl, rfl, rfl, rfl⟩

/-- The recorder adds one snapshot, of the context that it is handed and hands
on, and never fails. -/
theorem run_recorder (phase : String) (context : Context) (state : σ) (taken : List Snapshot) :
    (ExceptT.run ((Snapshot.recorder.onSecond σ).after phase context)).run (state, taken) =
      (.ok context, state, taken ++ [.capture phase context]) :=
  rfl

/-- A watched run over phases does what the run does and takes snapshots, from
any context and state on and after any that were taken before. -/
theorem run_watched (first second : List (Plugin σ)) (phases : List (Phase σ)) (context : Context)
    (state : σ) (taken : List Snapshot) :
    ∃ result final snapshots,
      (ExceptT.run (runSteps (phases.flatMap (phaseSteps (first ++ second))) context)).run state =
        (result, final) ∧
      (ExceptT.run (runSteps ((phases.map (phaseOnFirst _)).flatMap
        (phaseSteps (recording first second))) context)).run (state, taken) =
          (result, final, taken ++ snapshots) ∧
      Captured first second phases context state snapshots := by
  induction phases generalizing context state taken with
  | nil => exact ⟨.ok context, state, [], rfl, by rw [List.append_nil]; rfl, .done⟩
  | cons phase rest ih =>
    rw [List.map_cons, List.flatMap_cons, List.flatMap_cons, runSteps_bind, runSteps_bind,
      phaseSteps_eq, runSteps_bind, watched_phase]
    rcases ends (runSteps (opening first second phase) context) state with
      ⟨reached, between, opened⟩ | ⟨failure, final, failed⟩
    · rcases ends (runSteps (closing second phase) reached) between with
        ⟨after, stop, closed⟩ | ⟨failure, final, failed⟩
      · obtain ⟨result, final, snapshots, plain, watched, captured⟩ :=
          ih after stop (taken ++ [.capture phase.name reached])
        refine ⟨result, final, _, ?_, ?_, .passed opened (capture_shows ..) closed captured⟩
        · simp only [run_bind, ran_ok opened, ran_ok closed, plain]
        · simp only [run_bind, run_onFirst, ran_ok opened, run_recorder, ran_ok closed, watched,
            List.append_assoc, List.singleton_append]
      · refine ⟨.error failure, final, _, ?_, ?_, .stopped opened (capture_shows ..) failed⟩
        · simp only [run_bind, ran_ok opened, ran_error failed]
        · simp only [run_bind, run_onFirst, ran_ok opened, run_recorder, ran_error failed]
    · refine ⟨.error failure, final, [], ?_, ?_, .unreached failed⟩
      · simp only [run_bind, ran_error failed]
      · simp only [run_bind, run_onFirst, ran_error failed, List.append_nil]

/-! ## What the snapshots show -/

/-- The calls of a pass up to the recorder's after-hook for a phase that comes
after some others. -/
def upTo (first second : List (Plugin σ)) (earlier : List (Phase σ)) (phase : Phase σ) :
    List (Step σ) :=
  earlier.flatMap (phaseSteps (first ++ second)) ++ opening first second phase

section Captures
variable {first second : List (Plugin σ)} {phases : List (Phase σ)} {context : Context} {state : σ}
  {snapshots : List Snapshot}

private theorem succeeds_unique {ε : Type} {action : ExceptT ε (StateM σ) α} {state final other : σ}
    {value result : α} (ran : Succeeds action state value final)
    (again : Succeeds action state result other) : value = result ∧ final = other := by
  cases ran.symm.trans again
  exact ⟨rfl, rfl⟩

private theorem fails_not_succeeds {ε : Type} {action : ExceptT ε (StateM σ) α}
    {state final other : σ}
    {failure : ε} {value : α} (failed : Fails action state failure final) :
    ¬ Succeeds action state value other := by
  intro ran
  cases failed.symm.trans ran

private theorem behind_phase {phase : Phase σ} {steps : List (Step σ)} {arrived : Context}
    {final : σ} :
    Succeeds (runSteps (phaseSteps (first ++ second) phase ++ steps) context) state arrived final ↔
      ∃ reached between after stop,
        Succeeds (runSteps (opening first second phase) context) state reached between ∧
        Succeeds (runSteps (closing second phase) reached) between after stop ∧
        Succeeds (runSteps steps after) stop arrived final := by
  rw [phaseSteps_eq, List.append_assoc, runSteps_append]
  simp only [runSteps_append]
  constructor
  · rintro ⟨reached, between, opened, after, stop, closed, others⟩
    exact ⟨reached, between, after, stop, opened, closed, others⟩
  · rintro ⟨reached, between, after, stop, opened, closed, others⟩
    exact ⟨reached, between, opened, after, stop, closed, others⟩

/-- Nothing comes behind a phase in which a call in front of the recorder failed. -/
private theorem unreached_ends {phase : Phase σ} {steps : List (Step σ)} {arrived : Context}
    {stop final : σ} {failure : Failure}
    (failed : Fails (runSteps (opening first second phase) context) state failure stop) :
    ¬ Succeeds (runSteps (phaseSteps (first ++ second) phase ++ steps) context) state
      arrived final := by
  intro ran
  obtain ⟨_, _, _, _, opened, -⟩ := behind_phase.mp ran
  exact fails_not_succeeds failed opened

private theorem stopped_ends {phase : Phase σ} {steps : List (Step σ)} {reached arrived : Context}
    {between stop final : σ} {failure : Failure}
    (opened : Succeeds (runSteps (opening first second phase) context) state reached between)
    (failed : Fails (runSteps (closing second phase) reached) between failure stop) :
    ¬ Succeeds (runSteps (phaseSteps (first ++ second) phase ++ steps) context) state
      arrived final := by
  intro ran
  obtain ⟨_, _, _, _, again, closed, -⟩ := behind_phase.mp ran
  obtain ⟨rfl, rfl⟩ := succeeds_unique opened again
  exact fails_not_succeeds failed closed

/-- Behind a phase that came to its end the calls go on from where it has ended. -/
private theorem passed_onward {phase : Phase σ} {steps : List (Step σ)}
    {reached after arrived : Context} {between stop final : σ}
    (opened : Succeeds (runSteps (opening first second phase) context) state reached between)
    (closed : Succeeds (runSteps (closing second phase) reached) between after stop) :
    Succeeds (runSteps (phaseSteps (first ++ second) phase ++ steps) context) state arrived final ↔
      Succeeds (runSteps steps after) stop arrived final := by
  rw [behind_phase]
  constructor
  · rintro ⟨_, _, _, _, again, left, onward⟩
    obtain ⟨rfl, rfl⟩ := succeeds_unique opened again
    obtain ⟨rfl, rfl⟩ := succeeds_unique closed left
    exact onward
  · intro onward
    exact ⟨reached, between, after, stop, opened, closed, onward⟩

private theorem upTo_cons {earlier : List (Phase σ)} {left phase : Phase σ} :
    upTo first second (left :: earlier) phase =
      phaseSteps (first ++ second) left ++ upTo first second earlier phase := by
  rw [upTo, List.flatMap_cons, List.append_assoc, ← upTo]

/-- A context is shown by one snapshot only, since a snapshot holds nothing
else. -/
theorem Shows.unique {taken snapshot : Snapshot} {phase : String}
    (shows : Shows taken phase context) (again : Shows snapshot phase context) :
    taken = snapshot := by
  cases taken
  cases snapshot
  rw [Snapshot.mk.injEq]
  exact ⟨shows.named.trans again.named.symm, shows.discovered.trans again.discovered.symm,
    shows.descriptors.trans again.descriptors.symm, shows.units.trans again.units.symm,
    shows.retry.trans again.retry.symm, shows.diagnostics.trans again.diagnostics.symm⟩

private theorem captured_first {phase : Phase σ} {reached : Context} {between : σ}
    {taken : Snapshot}
    (opened : Succeeds (runSteps (opening first second phase) context) state reached between)
    (shows : Shows taken phase.name reached) (snapshot : Snapshot) :
    (taken :: snapshots)[0]? = some snapshot ↔ ∃ reached between,
      Succeeds (runSteps (upTo first second [] phase) context) state reached between ∧
        Shows snapshot phase.name reached := by
  rw [List.getElem?_cons_zero, Option.some.injEq]
  constructor
  · rintro rfl
    exact ⟨reached, between, opened, shows⟩
  · rintro ⟨other, elsewhere, reachedAgain, showsOther⟩
    obtain ⟨rfl, -⟩ := succeeds_unique opened reachedAgain
    exact shows.unique showsOther

/-- The snapshot at the place of a phase is that of the context in which the
recorder is reached in that phase; when it is not reached there is none. -/
theorem Captured.at_phase (captured : Captured first second phases context state snapshots)
    {earlier later : List (Phase σ)} {phase : Phase σ} (split : phases = earlier ++ phase :: later)
    (snapshot : Snapshot) :
    snapshots[earlier.length]? = some snapshot ↔ ∃ reached between,
      Succeeds (runSteps (upTo first second earlier phase) context) state reached between ∧
        Shows snapshot phase.name reached := by
  induction captured generalizing earlier with
  | done => simp at split
  | unreached failed =>
    constructor
    · intro found
      cases found
    · rintro ⟨reached, between, ran, -⟩
      cases earlier with
      | nil =>
        cases split
        exact absurd ran (fails_not_succeeds failed)
      | cons _ earlier =>
        cases split
        exact absurd (upTo_cons ▸ ran) (unreached_ends failed)
  | stopped opened shows failed =>
    cases earlier with
    | nil =>
      cases split
      exact captured_first opened shows snapshot
    | cons _ earlier =>
      cases split
      constructor
      · intro found
        cases found
      · rintro ⟨reached, between, ran, -⟩
        exact absurd (upTo_cons ▸ ran) (stopped_ends opened failed)
  | passed opened shows closed others ih =>
    cases earlier with
    | nil =>
      cases split
      exact captured_first opened shows snapshot
    | cons _ earlier =>
      cases split
      simp only [List.length_cons, List.getElem?_cons_succ, ih rfl, upTo_cons,
        passed_onward opened closed]

/-- No phase has two snapshots, as the recorder is reached at most once in each.
-/
theorem Captured.length_le (captured : Captured first second phases context state snapshots) :
    snapshots.length ≤ phases.length := by
  induction captured with
  | done => exact Nat.le_refl _
  | unreached => exact Nat.zero_le _
  | stopped => simp
  | passed _ _ _ _ ih => simpa using ih

/-- A pass that comes to its end has left a snapshot of every phase, in the
order in which they were run. -/
theorem Captured.complete (captured : Captured first second phases context state snapshots)
    {after : Context} {final : σ}
    (ran : Succeeds (runSteps (phases.flatMap (phaseSteps (first ++ second))) context) state
      after final) : snapshots.map (·.phase) = phases.map (·.name) := by
  induction captured with
  | done => rfl
  | unreached failed => exact absurd (List.flatMap_cons ▸ ran) (unreached_ends failed)
  | stopped opened _ failed => exact absurd (List.flatMap_cons ▸ ran) (stopped_ends opened failed)
  | passed opened shows closed _ ih =>
    rw [List.flatMap_cons, passed_onward opened closed] at ran
    rw [List.map_cons, List.map_cons, ih ran, shows.named]

end Captures

/-! ## Observation -/

/-- What is done with the final context of a pass. A recorder has no part in it,
since plugins are called around phases only. -/
def finish (write : Writer σ) (context : Context) : Run σ Outcome := do
  let written ← context.units.mapM (handOver write)
  return { context, written }

private theorem mapM_onFirst (action : α → Run σ β) (elements : List α) :
    elements.mapM (fun element => (action element).onFirst (τ := τ)) =
      (elements.mapM action).onFirst := by
  induction elements with
  | nil => rfl
  | cons first rest ih =>
    rw [List.mapM_cons, List.mapM_cons, onFirst_bind, ih]
    refine congrArg _ (funext fun result => ?_)
    rw [onFirst_bind]
    rfl

private theorem finish_onFirst (write : Writer σ) (context : Context) :
    finish (writerOnFirst τ write) context = (finish write context).onFirst := by
  have each : handOver (writerOnFirst τ write) = fun unit => (handOver write unit).onFirst := by
    refine funext fun unit => ?_
    rw [handOver, handOver, onFirst_bind]
    rfl
  rw [finish, finish, onFirst_bind, each, mapM_onFirst]
  rfl

/-- A watched pass does what the pass does and takes snapshots. Its result is
the same failure, or the same context with the same record of what was written.
-/
theorem process_watched (generator : Generator σ) (position : Nat) (host : Host)
    (write : Writer σ) (state : σ) :
    ∃ result final snapshots,
      (ExceptT.run (generator.process host write)).run state = (result, final) ∧
      (ExceptT.run ((watched generator position).process host (writerOnFirst _ write))).run
        (state, []) = (result, final, snapshots) ∧
      Captured (generator.plugins.take position) (generator.plugins.drop position)
        (generator.allPhases host) (.initial host) state snapshots := by
  obtain ⟨result, between, snapshots, ran, ranWatched, captured⟩ :=
    run_watched (generator.plugins.take position) (generator.plugins.drop position)
      (generator.allPhases host) (.initial host) state []
  rw [List.take_append_drop] at ran
  rw [List.nil_append] at ranWatched
  have phases : (watched generator position).allPhases host =
      (generator.allPhases host).map (phaseOnFirst _) := by
    rw [Generator.allPhases, Generator.allPhases, List.map_append]
    rfl
  have plain : (ExceptT.run (generator.run host)).run state = (result, between) := ran
  have observed : (ExceptT.run ((watched generator position).run host)).run (state, []) =
      (result, between, snapshots) := by
    rw [Generator.run, Generator.schedule, phases]
    exact ranWatched
  have process : generator.process host write = generator.run host >>= finish write := rfl
  have processWatched : (watched generator position).process host (writerOnFirst _ write) =
    (watched generator position).run host >>= finish (writerOnFirst _ write) := rfl
  rw [process, processWatched, run_bind, run_bind, plain, observed]
  cases result with
  | error failure => exact ⟨_, _, _, rfl, rfl, captured⟩
  | ok context =>
    simp only [finish_onFirst, run_onFirst]
    exact ⟨_, _, _, rfl, rfl, captured⟩

/-- Noting the calls to plugins does not change a pass. -/
theorem noted_shadows (generator : Generator σ) :
    GeneratorShadows Prod.fst (noted generator) generator := by
  refine ⟨rfl, rfl, ?_, ?_⟩
  · rw [noted, List.forall₂_map_left_iff, List.forall₂_same]
    exact fun phase _ => ⟨rfl, fun context => onFirst_shadows (phase.run context)⟩
  · rw [noted, List.forall₂_map_left_iff, List.forall₂_same]
    exact fun plugin _ => ⟨fun phase context => noting_shadows _ _,
      fun phase context => noting_shadows _ _⟩

/-- Generators that do the same in every call do so with a recorder, too. So the
calls to other plugins can be noted with the recorder among them. -/
theorem watched_shadows {view : τ → σ} {above : Generator τ} {below : Generator σ}
    (shadows : GeneratorShadows view above below) (position : Nat) :
    GeneratorShadows (Prod.map view id) (watched above position) (watched below position) := by
  have lifted {pluginsAbove : List (Plugin τ)} {pluginsBelow : List (Plugin σ)}
      (plugins : List.Forall₂ (PluginShadows view) pluginsAbove pluginsBelow) :
      List.Forall₂ (PluginShadows (Prod.map view (id : List Snapshot → List Snapshot)))
        (pluginsAbove.map (·.onFirst _)) (pluginsBelow.map (·.onFirst _)) := by
    rw [List.forall₂_map_left_iff, List.forall₂_map_right_iff]
    exact plugins.imp fun above below same =>
      ⟨fun phase context => (same.before phase context).onFirst _,
        fun phase context => (same.after phase context).onFirst _⟩
  have recorder : PluginShadows (Prod.map view id) (Snapshot.recorder.onSecond τ)
      (Snapshot.recorder.onSecond σ) :=
    ⟨fun _ _ _ => ⟨rfl, rfl⟩, fun _ _ _ => ⟨rfl, rfl⟩⟩
  refine ⟨shadows.emitter, shadows.lints, ?_, ?_⟩
  · rw [watched, watched, List.forall₂_map_left_iff, List.forall₂_map_right_iff]
    exact shadows.phases.imp fun above below same =>
      ⟨same.name, fun context => (same.run context).onFirst _⟩
  · exact List.rel_append (lifted (List.forall₂_take position shadows.plugins))
      (.cons recorder (lifted (List.forall₂_drop position shadows.plugins)))

/-- What a recorder at a position sees of a pass, and what the pass is like with
it and without it. The calls to the other plugins are noted in both and are the
same. -/
structure Observes (generator : Generator σ) (position : Nat) (host : Host) (write : Writer σ)
    (state : σ) (result : Except Failure Outcome) (final : σ) (calls : List Event)
    (snapshots : List Snapshot) : Prop where
  ran : (ExceptT.run (generator.process host write)).run state = (result, final)
  /-- With the recorder the pass has the same result and leaves the same state. -/
  watched : (ExceptT.run ((watched generator position).process host (writerOnFirst _ write))).run
    (state, []) = (result, final, snapshots)
  /-- Noting them does not change the pass, and these are the calls to its plugins. -/
  called : (ExceptT.run ((noted generator).process host (writerOnFirst _ write))).run (state, []) =
    (result, final, calls)
  /-- With the recorder the same calls are made to them. -/
  calledWatched : (ExceptT.run ((SnapshotObservation.watched (noted generator) position).process
    host (writerOnFirst _ (writerOnFirst _ write)))).run ((state, []), []) =
      (result, (final, calls), snapshots)
  captured : Captured (generator.plugins.take position) (generator.plugins.drop position)
    (generator.allPhases host) (.initial host) state snapshots
  /-- There is a snapshot for every phase in which the recorder is reached, and
  it shows the context at exactly that point: behind the hooks of the plugins in
  front of the recorder, ahead of those after it. -/
  at_phase : ∀ earlier phase later, generator.allPhases host = earlier ++ phase :: later →
    ∀ snapshot, snapshots[earlier.length]? = some snapshot ↔ ∃ reached between,
      Succeeds (runSteps (upTo (generator.plugins.take position) (generator.plugins.drop position)
        earlier phase) (.initial host)) state reached between ∧
      Shows snapshot phase.name reached
  /-- There are no others. -/
  bounded : snapshots.length ≤ (generator.allPhases host).length
  complete : ∀ outcome, result = .ok outcome →
    snapshots.map (·.phase) = (generator.allPhases host).map (·.name)

/-- Every pass is observed, whatever its plugins, phases and writer do and
whichever of them fail, and wherever the recorder stands. The emitter may render
anything; its units are made by `Emitter.emit` with the recorder and without. -/
theorem recorder_observes (generator : Generator σ) (position : Nat) (host : Host)
    (write : Writer σ) (state : σ) : ∃ result final calls snapshots,
      Observes generator position host write state result final calls snapshots := by
  obtain ⟨result, final, snapshots, ran, watched, captured⟩ :=
    process_watched generator position host write state
  obtain ⟨resultNoted, ⟨finalNoted, calls⟩, taken, called, calledWatched, -⟩ :=
    process_watched (noted generator) position host (writerOnFirst _ write) (state, [])
  -- Without their notes the noted passes are these two, so results and snapshots agree.
  have write_shadows (unit : GeneratedUnit) :
    Shadows Prod.fst (writerOnFirst (List Event) write unit) (write unit) := onFirst_shadows _
  have shadows := (noted_shadows generator).process write_shadows host
  have watchedShadows := (watched_shadows (noted_shadows generator) position).process
    (fun unit => (write_shadows unit).onFirst _) host
  obtain ⟨rfl, rfl⟩ : resultNoted = result ∧ finalNoted = final := shadows.agree called ran
  obtain rfl : taken = snapshots :=
    congrArg Prod.snd (watchedShadows.agree calledWatched watched).2
  refine ⟨_, _, calls, _, ran, watched, called, calledWatched, captured, ?_, captured.length_le, ?_⟩
  · exact fun earlier phase later split => captured.at_phase split
  · rintro outcome rfl
    obtain ⟨context, between, plain, -⟩ := succeeds_bind.mp ran
    have passed : Succeeds (runSteps ((generator.allPhases host).flatMap (phaseSteps
        (generator.plugins.take position ++ generator.plugins.drop position))) (.initial host))
        state context between := by
      rw [List.take_append_drop]
      exact plain
    exact captured.complete passed

end TypedRoutes.SnapshotObservation
