import TypedRoutes.Pipeline.Pass

/-! Execution of a pass that came to its end. Plugins and further phases may
report and change the settings at any hook; as long as they leave alone what
the pass has filed, the final context is that of the standard phases alone,
under the marker and settings that were in force when they ran. -/
namespace TypedRoutes.PassExecution
open Pipeline Route

variable {ε σ α β : Type}

/-- The action carried out from a state came to its end with a value, and left
the other state behind. -/
def Succeeds (action : ExceptT ε (StateM σ) α) (state : σ) (value : α) (final : σ) : Prop :=
  (ExceptT.run action).run state = (.ok value, final)

theorem succeeds_pure {value result : α} {state final : σ} :
    Succeeds (pure value : ExceptT ε (StateM σ) α) state result final ↔
      value = result ∧ state = final := by
  constructor
  · intro ran
    cases ran
    exact ⟨rfl, rfl⟩
  · rintro ⟨rfl, rfl⟩
    rfl

/-- An action after another one runs from where the first came to its end. When
the first fails it is not run. -/
theorem run_bind (action : ExceptT ε (StateM σ) α) (next : α → ExceptT ε (StateM σ) β)
    (state : σ) :
    (ExceptT.run (action >>= next)).run state =
      match (ExceptT.run action).run state with
      | (.ok middle, between) => (ExceptT.run (next middle)).run between
      | (.error failure, between) => (.error failure, between) := by
  simp only [ExceptT.run_bind, StateT.run_bind]
  rcases (ExceptT.run action).run state with ⟨failure | middle, between⟩ <;> rfl

/-- One action after another comes to its end when the first does and the second
does from there. -/
theorem succeeds_bind {action : ExceptT ε (StateM σ) α} {next : α → ExceptT ε (StateM σ) β}
    {state final : σ} {value : β} :
    Succeeds (action >>= next) state value final ↔
      ∃ middle between, Succeeds action state middle between ∧
        Succeeds (next middle) between value final := by
  unfold Succeeds
  rw [run_bind]
  constructor
  · intro ran
    cases first : (ExceptT.run action).run state with
    | mk result between =>
      rw [first] at ran
      cases result with
      | error failure => cases ran
      | ok middle => exact ⟨middle, between, rfl, ran⟩
  · rintro ⟨middle, between, first, rest⟩
    simpa only [first] using rest

/-- An evaluation that shows a part of a value shows that there is one. So a run
can be evaluated for what is wanted of its context, and the context itself need
not be written down. -/
theorem succeeds_shown {action : ExceptT ε (StateM σ) α} {state : σ} {view : α → β} {part : β}
    (shown : ((ExceptT.run action).run state).1.toOption.map view = some part) :
    ∃ value final, Succeeds action state value final ∧ view value = part := by
  cases ran : (ExceptT.run action).run state with
  | mk result final =>
    rw [ran] at shown
    cases result with
    | error failure => cases shown
    | ok value => exact ⟨value, final, ran, Option.some.inj shown⟩

theorem succeeds_get (state : σ) :
    Succeeds (get : ExceptT ε (StateM σ) σ) state state state :=
  rfl

theorem succeeds_set (state final : σ) :
    Succeeds (set final : ExceptT ε (StateM σ) PUnit) state ⟨⟩ final :=
  rfl

theorem run_onFirst (action : Run σ α) (state : σ × β) :
    (ExceptT.run action.onFirst).run state =
      (((ExceptT.run action).run state.1).1, (((ExceptT.run action).run state.1).2, state.2)) :=
  rfl

/-- An action on the first part of a state keeps the second part, whatever it
is. -/
theorem succeeds_onFirst {τ : Type} {action : Run σ α} {state final : σ} {value : α}
    (ran : Succeeds action state value final) (other : τ) :
    Succeeds action.onFirst (state, other) value (final, other) := by
  rw [Succeeds, run_onFirst, ran]

private theorem onFirst_succeeds {action : Run σ α} {state final : σ × β} {value : α}
    (ran : Succeeds action.onFirst state value final) :
    Succeeds action state.1 value final.1 := by
  rw [Succeeds, run_onFirst] at ran
  obtain ⟨done, rfl⟩ := Prod.mk.inj ran
  exact Prod.ext done rfl

/-- Running steps is running a first part of them and then the others, from the
context and the state that the first have left. -/
theorem runSteps_append {first second : List (Step σ)} {context after : Context} {state final : σ} :
    Succeeds (runSteps (first ++ second) context) state after final ↔
      ∃ middle between, Succeeds (runSteps first context) state middle between ∧
        Succeeds (runSteps second middle) between after final := by
  induction first generalizing context state with
  | nil =>
    constructor
    · intro ran
      exact ⟨context, state, succeeds_pure.mpr ⟨rfl, rfl⟩, ran⟩
    · rintro ⟨middle, between, first, ran⟩
      obtain ⟨rfl, rfl⟩ := succeeds_pure.mp first
      exact ran
  | cons step rest ih =>
    simp only [List.cons_append, runSteps, succeeds_bind, ih]
    constructor
    · rintro ⟨entered, start, ran, middle, between, first, second⟩
      exact ⟨middle, between, ⟨entered, start, ran, first⟩, second⟩
    · rintro ⟨middle, between, ⟨entered, start, ran, first⟩, second⟩
      exact ⟨entered, start, ran, middle, between, first, second⟩

/-! ## What a pass has filed -/

/-- A context without its settings and diagnostics: what a pass has filed.
Plugins may change the rest of it without a part in where declarations end up.
-/
def filed (context : Context) : Context :=
  { context with settings := {}, diagnostics := [] }

/-- An action that leaves alone what the pass has filed. It may report and
change the settings, act on a state of its own, or fail. -/
def LeavesFiled (action : Context → Run σ Context) : Prop :=
  ∀ {before after : Context} {state final : σ},
    Succeeds (action before) state after final → filed after = filed before

/-- A plugin that leaves alone what the pass has filed, at every hook. This is
required of hooks that come to their end only, so it may fail anywhere. -/
structure Restrained (plugin : Plugin σ) : Prop where
  before : ∀ phase, LeavesFiled (plugin.before phase)
  after : ∀ phase, LeavesFiled (plugin.after phase)

/-- An action that keeps a view of the context whenever it comes to its end. The
smaller the view is, the more plugins keep it. -/
def Keeps (view : Context → β) (action : Context → Run σ Context) : Prop :=
  ∀ {before after : Context} {state final : σ},
    Succeeds (action before) state after final → view after = view before

/-- A plugin that keeps a view of the context at every hook, before and after
phases of any name. -/
structure KeepsAtHooks (view : Context → β) (plugin : Plugin σ) : Prop where
  before : ∀ phase, Keeps view (plugin.before phase)
  after : ∀ phase, Keeps view (plugin.after phase)

/-- What a pass has filed, with the settings that are in force. A plugin that
keeps this can only report. -/
def configured (context : Context) : Context × Manifest.Settings :=
  (filed context, context.settings)

theorem Restrained.keeps {plugin : Plugin σ} (restrained : Restrained plugin) :
    KeepsAtHooks filed plugin :=
  ⟨restrained.before, restrained.after⟩

/-- A plugin that can only report leaves alone what is filed. -/
theorem KeepsAtHooks.restrained {plugin : Plugin σ} (keeps : KeepsAtHooks configured plugin) :
    Restrained plugin := by
  constructor
  · intro phase before after state final ran
    exact congrArg Prod.fst (keeps.before phase ran)
  · intro phase before after state final ran
    exact congrArg Prod.fst (keeps.after phase ran)

variable {view : Context → β}

theorem KeepsAtHooks.onFirst {plugin : Plugin σ} (keeps : KeepsAtHooks view plugin) (τ : Type) :
    KeepsAtHooks view (plugin.onFirst τ) := by
  constructor
  · intro phase before after state final ran
    exact keeps.before phase (onFirst_succeeds ran)
  · intro phase before after state final ran
    exact keeps.after phase (onFirst_succeeds ran)

private theorem steps_keep {steps : List (Step σ)} (each : ∀ step ∈ steps, Keeps view step.run) :
    Keeps view (runSteps steps) := by
  induction steps with
  | nil =>
    intro before after state final ran
    rw [(succeeds_pure.mp ran).1]
  | cons step rest ih =>
    intro before after state final ran
    obtain ⟨middle, between, first, others⟩ := succeeds_bind.mp ran
    have kept := ih (fun other member => each other (List.mem_cons_of_mem _ member)) others
    rw [kept, each step (by simp) first]

/-- What the plugins keep is kept before a phase and after it, so as far as the
view goes only the phase itself has been run. -/
theorem phase_between_hooks {plugins : List (Plugin σ)} {phase : Phase σ}
    (keep : ∀ plugin ∈ plugins, KeepsAtHooks view plugin)
    {context after : Context} {state final : σ}
    (ran : Succeeds (runSteps (phaseSteps plugins phase) context) state after final) :
    ∃ entered left start stop, view entered = view context ∧
      Succeeds (phase.run entered) start left stop ∧ view after = view left := by
  rw [phaseSteps, List.append_assoc, runSteps_append] at ran
  obtain ⟨entered, start, hooksBefore, ran⟩ := ran
  obtain ⟨left, stop, own, hooksAfter⟩ := runSteps_append.mp ran
  have ownRan : Succeeds (phase.run entered) start left stop := by
    simp only [runSteps, succeeds_bind, succeeds_pure] at own
    obtain ⟨last, between, ran, rfl, rfl⟩ := own
    exact ran
  refine ⟨entered, left, start, stop, ?_, ownRan, ?_⟩
  · refine steps_keep ?_ hooksBefore
    simp only [List.mem_map, forall_exists_index, and_imp]
    rintro step plugin member rfl
    exact (keep plugin member).before phase.name
  · refine steps_keep ?_ hooksAfter
    simp only [List.mem_map, forall_exists_index, and_imp]
    rintro step plugin member rfl
    exact (keep plugin member).after phase.name

/-- A phase that only computes does so between the hooks, on a context that
looks like the one before them. -/
theorem pure_phase_between_hooks {plugins : List (Plugin σ)} {name description : String}
    {change : Context → Context} (keep : ∀ plugin ∈ plugins, KeepsAtHooks view plugin)
    {context after : Context} {state final : σ}
    (ran : Succeeds (runSteps (phaseSteps plugins
      ⟨name, description, fun context => pure (change context)⟩) context) state after final) :
    ∃ entered, view entered = view context ∧ view after = view (change entered) := by
  obtain ⟨entered, left, start, stop, same, own, kept⟩ := phase_between_hooks keep ran
  obtain ⟨rfl, -⟩ := succeeds_pure.mp own
  exact ⟨entered, same, kept⟩

/-- Phases that leave alone what is filed do so together with restrained plugins
around each. -/
theorem phases_leave_filed {plugins : List (Plugin σ)} {phases : List (Phase σ)}
    (restrained : ∀ plugin ∈ plugins, Restrained plugin)
    (each : ∀ phase ∈ phases, LeavesFiled phase.run) :
    LeavesFiled (runSteps (phases.flatMap (phaseSteps plugins))) := by
  apply steps_keep
  intro step member
  simp only [List.mem_flatMap, phaseSteps, List.mem_append, List.mem_map, List.mem_singleton]
    at member
  obtain ⟨phase, held, (⟨plugin, own, rfl⟩ | rfl) | ⟨plugin, own, rfl⟩⟩ := member
  · exact (restrained plugin own).before phase.name
  · exact each phase held
  · exact (restrained plugin own).after phase.name

end TypedRoutes.PassExecution
