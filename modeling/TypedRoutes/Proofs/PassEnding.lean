import Mathlib.Data.List.Forall2
import TypedRoutes.Command.Explain
import TypedRoutes.Proofs.PassExecution

/-! How a pass ends. Any hook, phase or write may fail, and the first one that
does is the last thing that happens. To see what happens, a pass is run with a
record beside its state, in which every hook and phase notes for itself that it
is called and the writer every unit that it is offered. The calls are held
against a plan that says of each what it does, so that a call cannot be told
without having been made. -/
namespace TypedRoutes.PassEnding
open Command Pipeline PassExecution

variable {ε σ τ α β : Type}

/-- The action carried out from a state gave up and left this state behind. What
was done to the state before is not undone. -/
def Fails (action : ExceptT ε (StateM σ) α) (state : σ) (failure : ε) (final : σ) : Prop :=
  (ExceptT.run action).run state = (.error failure, final)

/-- An action on a state always ends in one of these two ways, as it is a
function of the state. -/
theorem ends (action : ExceptT ε (StateM σ) α) (state : σ) :
    (∃ value final, Succeeds action state value final) ∨
      ∃ failure final, Fails action state failure final := by
  cases ran : (ExceptT.run action).run state with
  | mk result final =>
    cases result with
    | ok value => exact .inl ⟨value, final, ran⟩
    | error failure => exact .inr ⟨failure, final, ran⟩

private theorem fails_pure {value : α} {state final : σ} {failure : ε} :
    ¬ Fails (pure value : ExceptT ε (StateM σ) α) state failure final := by
  intro failed
  cases failed

/-- One action after another fails when the first does, or when the second does
after the first has come to its end. -/
theorem fails_bind {action : ExceptT ε (StateM σ) α} {next : α → ExceptT ε (StateM σ) β}
    {state final : σ} {failure : ε} :
    Fails (action >>= next) state failure final ↔
      Fails action state failure final ∨ ∃ middle between, Succeeds action state middle between ∧
        Fails (next middle) between failure final := by
  unfold Fails
  rw [run_bind]
  rcases ends action state with ⟨middle, between, ran⟩ | ⟨refusal, between, refused⟩
  · rw [ran]
    constructor
    · intro failed
      exact .inr ⟨middle, between, ran, failed⟩
    · rintro (failed | ⟨other, elsewhere, ranOther, failed⟩)
      · cases failed
      · cases ran.symm.trans ranOther
        exact failed
  · rw [refused]
    dsimp only
    constructor
    · intro failed
      cases failed
      exact .inl rfl
    · rintro (failed | ⟨middle, elsewhere, ran, -⟩)
      · cases failed
        rfl
      · cases refused.symm.trans ran

private theorem traversal_cons {action : α → ExceptT ε (StateM σ) β} {first : α} {others : List α}
    {state final : σ} {results : List β} :
    Succeeds ((first :: others).mapM action) state results final ↔
      ∃ result between rest, Succeeds (action first) state result between ∧
        Succeeds (others.mapM action) between rest final ∧ results = result :: rest := by
  rw [List.mapM_cons, succeeds_bind]
  constructor
  · rintro ⟨result, between, ran, onward⟩
    obtain ⟨rest, stop, later, made⟩ := succeeds_bind.mp onward
    obtain ⟨rfl, rfl⟩ := succeeds_pure.mp made
    exact ⟨result, between, rest, ran, later, rfl⟩
  · rintro ⟨result, between, rest, ran, later, rfl⟩
    exact ⟨result, between, ran,
      succeeds_bind.mpr ⟨rest, final, later, succeeds_pure.mpr ⟨rfl, rfl⟩⟩⟩

/-! ## The first failure -/

/-- Steps fail when one of them does after those before it have come to their
ends. No step behind it has a part in this, so it could be any step at all. -/
theorem steps_fail {steps : List (Step σ)} {context : Context} {state final : σ}
    {failure : Failure} :
    Fails (runSteps steps context) state failure final ↔
      ∃ made step rest middle between, steps = made ++ step :: rest ∧
        Succeeds (runSteps made context) state middle between ∧
        Fails (step.run middle) between failure final := by
  induction steps generalizing context state with
  | nil =>
    constructor
    · intro failed
      exact absurd failed fails_pure
    · rintro ⟨made, step, rest, middle, between, split, -⟩
      simp at split
  | cons first others ih =>
    rw [runSteps, fails_bind]
    constructor
    · rintro (failed | ⟨entered, start, ran, failed⟩)
      · exact ⟨[], first, others, context, state, rfl, succeeds_pure.mpr ⟨rfl, rfl⟩, failed⟩
      · obtain ⟨made, step, rest, middle, between, rfl, before, failed⟩ := ih.mp failed
        exact ⟨first :: made, step, rest, middle, between, rfl,
          succeeds_bind.mpr ⟨entered, start, ran, before⟩, failed⟩
    · rintro ⟨made, step, rest, middle, between, split, before, failed⟩
      cases made with
      | nil =>
        cases split
        obtain ⟨rfl, rfl⟩ := succeeds_pure.mp before
        exact .inl failed
      | cons earlier made =>
        cases split
        obtain ⟨entered, start, ran, before⟩ := succeeds_bind.mp before
        exact .inr ⟨entered, start, ran,
          ih.mpr ⟨made, step, rest, middle, between, rfl, before, failed⟩⟩

/-- A traversal fails when it fails at an element after it has come to the end
of those in front. It does not look at the elements behind. -/
theorem traversal_fails {action : α → ExceptT ε (StateM σ) β} {elements : List α}
    {state final : σ} {failure : ε} :
    Fails (elements.mapM action) state failure final ↔
      ∃ done element rest results between, elements = done ++ element :: rest ∧
        Succeeds (done.mapM action) state results between ∧
        Fails (action element) between failure final := by
  induction elements generalizing state with
  | nil =>
    constructor
    · intro failed
      exact absurd failed fails_pure
    · rintro ⟨done, element, rest, results, between, split, -⟩
      simp at split
  | cons first others ih =>
    rw [List.mapM_cons, fails_bind]
    constructor
    · rintro (failed | ⟨result, start, ran, failed⟩)
      · exact ⟨[], first, others, [], state, rfl, succeeds_pure.mpr ⟨rfl, rfl⟩, failed⟩
      · rcases fails_bind.mp failed with failed | ⟨results, stop, -, failed⟩
        · obtain ⟨done, element, rest, results, between, rfl, before, failed⟩ := ih.mp failed
          refine ⟨first :: done, element, rest, result :: results, between, rfl, ?_, failed⟩
          rw [traversal_cons]
          exact ⟨result, start, results, ran, before, rfl⟩
        · exact absurd failed fails_pure
    · rintro ⟨done, element, rest, results, between, split, before, failed⟩
      cases done with
      | nil =>
        cases split
        obtain ⟨-, rfl⟩ := succeeds_pure.mp before
        exact .inl failed
      | cons earlier done =>
        cases split
        obtain ⟨result, start, others, ran, before, -⟩ := traversal_cons.mp before
        exact .inr ⟨result, start, ran, fails_bind.mpr
          (.inl (ih.mpr ⟨done, element, rest, others, between, rfl, before, failed⟩))⟩

/-! ## What happens during a pass -/

/-- Something that a pass does outside its context: a hook or phase that is
called, or a unit that is offered to the writer. -/
inductive Event where
  | called (call : Call)
  | offered (unit : GeneratedUnit)

/-- The events of carrying out steps, one for each of them. -/
def calling (steps : List (Step σ)) : List Event :=
  steps.map (.called ·.call)

/-- The events of offering units to a writer, whether or not it takes them. -/
def offering (units : List GeneratedUnit) : List Event :=
  units.map .offered

/-- An action that notes an event beside its state before it is carried out. The
note stays when the action fails, so that the last event can be the one that
ended the pass. -/
def noting (event : Event) (action : Run σ α) : Run (σ × List Event) α := do
  modify fun (state, events) => (state, events ++ [event])
  action.onFirst

/-- A plugin whose hooks note that they are called. The note is made inside the
hook, together with what the hook does. -/
def notedPlugin (plugin : Plugin σ) : Plugin (σ × List Event) where
  name := plugin.name
  before phase context :=
    noting (.called (.before plugin.name phase)) (plugin.before phase context)
  after phase context :=
    noting (.called (.after plugin.name phase)) (plugin.after phase context)

/-- A phase that notes that it is run, inside its own action as well. -/
def notedPhase (phase : Phase σ) : Phase (σ × List Event) where
  name := phase.name
  description := phase.description
  run context := noting (.called (.phase phase.name)) (phase.run context)

/-- A writer that notes every unit it is offered, before it tries to write it.
-/
def notedWriter (write : Writer σ) : Writer (σ × List Event) := fun unit =>
  noting (.offered unit) (write unit)

/-- Hands one unit to a writer and records its path and what came of it. -/
def handOver (write : Writer σ) (unit : GeneratedUnit) : Run σ WrittenUnit := do
  return { source := unit.source, path := unit.relativePath, outcome := ← write unit }

/-- A pass over a host that goes through phases with the hooks of plugins around
each, and then hands over its units. -/
def passOf (plugins : List (Plugin σ)) (phases : List (Phase σ)) (host : Host)
    (write : Writer σ) : Run σ Outcome := do
  let context ← runSteps (phases.flatMap (phaseSteps plugins)) (.initial host)
  let written ← context.units.mapM (handOver write)
  return { context, written }

/-- The pass of a generator whose plugins, phases and writer note what becomes of
them. Nothing is noted on their behalf: a hook that is never run leaves no note. -/
def observed (generator : Generator σ) (host : Host) (write : Writer σ) :
    Run (σ × List Event) Outcome :=
  passOf (generator.plugins.map notedPlugin) ((generator.allPhases host).map notedPhase) host
    (notedWriter write)

/-- The pass of a generator is the pass of its plugins and all its phases, so
noting it means replacing these and nothing in between. -/
theorem process_eq (generator : Generator σ) (host : Host) (write : Writer σ) :
    generator.process host write = passOf generator.plugins (generator.allPhases host) host write :=
  rfl

section Noting
variable {state final : σ} {event : Event} {action : Run σ α}

private theorem run_noting (event : Event) (action : Run σ α) (state : σ) (events : List Event) :
    (ExceptT.run (noting event action)).run (state, events) =
      (((ExceptT.run action).run state).1,
        (((ExceptT.run action).run state).2, events ++ [event])) :=
  rfl

private theorem noting_succeeds {value : α} (ran : Succeeds action state value final)
    (events : List Event) :
    Succeeds (noting event action) (state, events) value (final, events ++ [event]) := by
  rw [Succeeds, run_noting, ran]

private theorem noting_fails {failure : Failure} (failed : Fails action state failure final)
    (events : List Event) :
    Fails (noting event action) (state, events) failure (final, events ++ [event]) := by
  rw [Fails, run_noting, failed]

/-- A step that notes its call, as the steps of noted plugins and phases do. -/
private def notedStep (step : Step σ) : Step (σ × List Event) where
  call := step.call
  run context := noting (.called step.call) (step.run context)

private theorem noted_schedule (generator : Generator σ) (host : Host) :
    ((generator.allPhases host).map notedPhase).flatMap
      (phaseSteps (generator.plugins.map notedPlugin)) =
        (generator.schedule host).map notedStep := by
  rw [Generator.schedule, List.map_flatMap, List.flatMap_map]
  refine List.flatMap_congr fun phase _ => ?_
  simp only [phaseSteps, List.map_append, List.map_map, List.map_cons, List.map_nil]
  rfl

private theorem noted_steps_succeed {steps : List (Step σ)} {context after : Context}
    (ran : Succeeds (runSteps steps context) state after final) (events : List Event) :
    Succeeds (runSteps (steps.map notedStep) context) (state, events) after
      (final, events ++ calling steps) := by
  induction steps generalizing context state events with
  | nil =>
    obtain ⟨rfl, rfl⟩ := succeeds_pure.mp ran
    exact succeeds_pure.mpr ⟨rfl, by simp [calling]⟩
  | cons step rest ih =>
    obtain ⟨middle, between, first, others⟩ := succeeds_bind.mp ran
    rw [calling, List.map_cons, List.map_cons, List.append_cons]
    exact succeeds_bind.mpr ⟨middle, _, noting_succeeds first events, ih others _⟩

private theorem noted_units_succeed {write : Writer σ} {units : List GeneratedUnit}
    {written : List WrittenUnit} (ran : Succeeds (units.mapM (handOver write)) state written final)
    (events : List Event) :
    Succeeds (units.mapM (handOver (notedWriter write))) (state, events) written
      (final, events ++ offering units) := by
  induction units generalizing state written events with
  | nil =>
    obtain ⟨rfl, rfl⟩ := succeeds_pure.mp ran
    exact succeeds_pure.mpr ⟨rfl, by simp [offering]⟩
  | cons unit rest ih =>
    obtain ⟨first, between, others, handed, later, rfl⟩ := traversal_cons.mp ran
    obtain ⟨outcome, stop, stored, made⟩ := succeeds_bind.mp handed
    obtain ⟨rfl, rfl⟩ := succeeds_pure.mp made
    rw [offering, List.map_cons, List.append_cons]
    exact traversal_cons.mpr ⟨_, _, others, succeeds_bind.mpr
      ⟨outcome, _, noting_succeeds stored events, succeeds_pure.mpr ⟨rfl, rfl⟩⟩, ih later _, rfl⟩

private theorem noted_steps_fail {steps made rest : List (Step σ)} {step : Step σ}
    {context middle : Context} {between : σ} {failure : Failure}
    (planned : steps = made ++ step :: rest)
    (before : Succeeds (runSteps made context) state middle between)
    (failed : Fails (step.run middle) between failure final) (events : List Event) :
    Fails (runSteps (steps.map notedStep) context) (state, events) failure
      (final, events ++ calling (made ++ [step])) := by
  rw [planned, List.map_append, List.map_cons, calling, List.map_append, ← List.append_assoc]
  exact steps_fail.mpr ⟨made.map notedStep, notedStep step, rest.map notedStep, middle, _, rfl,
    noted_steps_succeed before events, noting_fails failed _⟩

private theorem noted_units_fail {write : Writer σ} {units stored rest : List GeneratedUnit}
    {unit : GeneratedUnit} {written : List WrittenUnit} {between : σ} {failure : Failure}
    (split : units = stored ++ unit :: rest)
    (before : Succeeds (stored.mapM (handOver write)) state written between)
    (failed : Fails (write unit) between failure final) (events : List Event) :
    Fails (units.mapM (handOver (notedWriter write))) (state, events) failure
      (final, events ++ offering (stored ++ [unit])) := by
  rw [split, offering, List.map_append, ← List.append_assoc]
  exact traversal_fails.mpr ⟨stored, unit, rest, written, _, rfl,
    noted_units_succeed before events, fails_bind.mpr (.inl (noting_fails failed _))⟩

end Noting

/-! ## The plan of a pass -/

/-- The phases that a generator plans over a host, by name and by what they do:
the standard ones, which only compute, and then its own in the order in which
they were added. -/
def plannedPhases (generator : Generator σ) (host : Host) :
    List (String × (Context → Run σ Context)) := [
  ("discover", fun context => pure (context.discover host)),
  ("build", fun context => pure (context.build host)),
  ("validate", fun context => pure (context.validate generator.lints)),
  ("emit", fun context => pure (context.emit generator.emitter)),
  ("classify", fun context => pure (context.classify host))] ++
    generator.phases.map fun phase => (phase.name, phase.run)

/-- The calls that a generator plans, each with what it does: for every phase
the hooks of all plugins before it, the phase, and their hooks after it. Plugins
come in the order in which they were added, before and after. -/
def plan (generator : Generator σ) (host : Host) : List (Step σ) :=
  (plannedPhases generator host).flatMap fun (phase, run) =>
    generator.plugins.map (fun plugin => ⟨.before plugin.name phase, plugin.before phase⟩) ++
      [⟨.phase phase, run⟩] ++
      generator.plugins.map fun plugin => ⟨.after plugin.name phase, plugin.after phase⟩

/-- Calls that have come to their ends, each made on the context and in the
state that the one before it has left. This is told of single calls and knows of
no loop over them. -/
inductive Carried : List (Step σ) → Context → σ → Context → σ → Prop where
  | done {context : Context} {state : σ} : Carried [] context state context state
  | call {step : Step σ} {rest : List (Step σ)} {context middle after : Context}
      {state between final : σ} (ran : Succeeds (step.run context) state middle between)
      (others : Carried rest middle between after final) :
      Carried (step :: rest) context state after final

/-! ## The ending -/

/-- A unit and the record of it, which names the declaration of the unit and its
path. -/
def Records (written : WrittenUnit) (unit : GeneratedUnit) : Prop :=
  written.source = unit.source ∧ written.path = unit.relativePath

/-- The ways a pass can end: with what result, in what state, and after what
events. Each is told by the planned calls themselves, from the empty context on.
-/
inductive Ends (generator : Generator σ) (host : Host) (write : Writer σ) (state : σ) :
    Except Failure Outcome → σ → List Event → Prop where
  /-- A call failed. It was the last one, and no unit has been offered. -/
  | stopped {made rest : List (Step σ)} {step : Step σ} {context : Context} {between final : σ}
      {failure : Failure}
      (planned : plan generator host = made ++ step :: rest)
      (before : Carried made (.initial host) state context between)
      (failed : Fails (step.run context) between failure final) :
      Ends generator host write state (.error failure) final
        (calling (made ++ [step]))
  /-- A write failed. The units in front are written, and none behind is offered. -/
  | unwritten {context : Context} {stored rest : List GeneratedUnit} {unit : GeneratedUnit}
      {written : List WrittenUnit} {between middle final : σ} {failure : Failure}
      (ran : Carried (plan generator host) (.initial host) state context between)
      (units : context.units = stored ++ unit :: rest)
      (before : Succeeds (stored.mapM (handOver write)) between written middle)
      (each : List.Forall₂ Records written stored)
      (failed : Fails (write unit) middle failure final) :
      Ends generator host write state (.error failure) final
        (calling (plan generator host) ++ offering (stored ++ [unit]))
  /-- Nothing failed, and all units of the final context are written. -/
  | complete {context : Context} {written : List WrittenUnit} {between final : σ}
      (ran : Carried (plan generator host) (.initial host) state context between)
      (stored : Succeeds (context.units.mapM (handOver write)) between written final)
      (each : List.Forall₂ Records written context.units) :
      Ends generator host write state (.ok { context, written }) final
        (calling (plan generator host) ++ offering context.units)

/-- The calls among events, in order. -/
def callsOf (events : List Event) : List Call :=
  events.filterMap fun
    | .called call => some call
    | .offered _ => none

/-- The phases among calls, by name and without the hooks around them. -/
def phasesOf (calls : List Call) : List String :=
  calls.filterMap fun
    | .phase name => some name
    | _ => none

/-- What one pass does, from its start to its end. The events are those of a
pass that is observed, and the ending accounts for each of them. -/
structure StopsCleanly (generator : Generator σ) (host : Host) (write : Writer σ) (state : σ)
    (result : Except Failure Outcome) (final : σ) (events : List Event) : Prop where
  /-- These are the events of the pass, as its hooks, phases and writer note them. -/
  observed : (ExceptT.run (observed generator host write)).run (state, []) =
    (result, final, events)
  /-- Noting them does not change the pass. -/
  ran : (ExceptT.run (generator.process host write)).run state = (result, final)
  ends : Ends generator host write state result final events
  planned : callsOf events <+: (plan generator host).map (·.call)
  /-- When nothing fails all planned calls are made, and the phases among them
  are those that the generator tells of, by their names. -/
  executed : ∀ outcome, result = .ok outcome →
    callsOf events = (plan generator host).map (·.call) ∧
      phasesOf (callsOf events) = (phaseNotes generator host).map (·.1)

variable {generator : Generator σ} {host : Host} {write : Writer σ} {state : σ}

/-- A traversal that came to its end has recorded every unit, in order. -/
theorem written_each {units : List GeneratedUnit} {written : List WrittenUnit} {final : σ}
    (ran : Succeeds (units.mapM (handOver write)) state written final) :
    List.Forall₂ Records written units := by
  induction units generalizing state written with
  | nil =>
    obtain ⟨rfl, -⟩ := succeeds_pure.mp ran
    exact .nil
  | cons unit rest ih =>
    obtain ⟨first, between, others, handed, later, rfl⟩ := traversal_cons.mp ran
    obtain ⟨outcome, stop, -, made⟩ := succeeds_bind.mp handed
    obtain ⟨rfl, -⟩ := succeeds_pure.mp made
    exact .cons ⟨rfl, rfl⟩ (ih later)

/-- The schedule of a pass carries out the plan: what is labelled as a call of a
hook or a phase is this hook or this phase. -/
theorem schedule_planned (generator : Generator σ) (host : Host) :
    generator.schedule host = plan generator host := by
  have phases : plannedPhases generator host =
      (generator.allPhases host).map fun phase => (phase.name, phase.run) := by
    rw [Generator.allPhases, List.map_append]
    rfl
  rw [plan, phases, List.flatMap_map]
  rfl

/-- Steps come to their end when each of their calls does, so the loop over them
adds nothing of its own. -/
theorem carried_iff {steps : List (Step σ)} {context after : Context} {state final : σ} :
    Carried steps context state after final ↔
      Succeeds (runSteps steps context) state after final := by
  constructor
  · intro carried
    induction carried with
    | done => exact succeeds_pure.mpr ⟨rfl, rfl⟩
    | call ran _ ih => exact succeeds_bind.mpr ⟨_, _, ran, ih⟩
  · intro ran
    induction steps generalizing context state with
    | nil =>
      obtain ⟨rfl, rfl⟩ := succeeds_pure.mp ran
      exact .done
    | cons step rest ih =>
      obtain ⟨middle, between, first, others⟩ := succeeds_bind.mp ran
      exact .call first (ih others)

private theorem callsOf_passed (steps : List (Step σ)) (units : List GeneratedUnit) :
    callsOf (calling steps ++ offering units) = steps.map (·.call) := by
  have none : callsOf (offering units) = [] := by
    simp [callsOf, offering]
  have all : callsOf (calling steps) = steps.map (·.call) := by
    simp [callsOf, calling, List.filterMap_map]
  rw [callsOf, List.filterMap_append, ← callsOf, ← callsOf, none, all, List.append_nil]

/-- Every phase of the plan is called once, and the generator tells of it. No
phase is told of that the plan does not have. -/
theorem phasesOf_plan (generator : Generator σ) (host : Host) :
    phasesOf ((plan generator host).map (·.call)) = (phaseNotes generator host).map (·.1) := by
  have own (phase : Phase σ) :
      phasesOf ((phaseSteps generator.plugins phase).map (·.call)) = [phase.name] := by
    simp [phasesOf, phaseSteps, List.filterMap_map]
  calc phasesOf ((plan generator host).map (·.call))
    _ = (generator.allPhases host).flatMap fun phase => [phase.name] := by
        rw [← schedule_planned, Generator.schedule, List.map_flatMap, phasesOf,
          List.filterMap_flatMap]
        exact List.flatMap_congr fun phase _ => own phase
    _ = (phaseNotes generator host).map (·.1) := by
        rw [phaseNotes, List.map_map, ← List.map_eq_flatMap]
        rfl

/-- A pass whose calls fail ends with the first failure. The writer has not been
reached, as units are only handed over when all calls are done. -/
theorem stops_at_call {final : σ} {failure : Failure}
    (stopped : Fails (generator.run host) state failure final) :
    ∃ events, StopsCleanly generator host write state (.error failure) final events := by
  obtain ⟨made, step, rest, context, between, planned, before, failed⟩ := steps_fail.mp stopped
  have noted := noted_steps_fail planned before failed []
  rw [← noted_schedule] at noted
  rw [schedule_planned] at planned
  have calls : callsOf (calling (made ++ [step])) = (made ++ [step]).map (·.call) := by
    simpa [offering] using callsOf_passed (made ++ [step]) []
  refine ⟨calling (made ++ [step]), fails_bind.mpr (.inl noted), fails_bind.mpr (.inl stopped),
    .stopped planned (carried_iff.mpr before) failed, ?_, ?_⟩
  · rw [calls, planned, List.append_cons made step rest]
    exact (List.prefix_append (made ++ [step]) rest).map _
  · rintro outcome ⟨⟩

section Writes
variable {context : Context} {between final : σ}
  (ran : Succeeds (generator.run host) state context between)
include ran

private theorem plan_carried :
    Carried (plan generator host) (.initial host) state context between := by
  rw [carried_iff, ← schedule_planned]
  exact ran

private theorem plan_noted :
    Succeeds (runSteps (((generator.allPhases host).map notedPhase).flatMap
      (phaseSteps (generator.plugins.map notedPlugin))) (.initial host)) (state, [])
        context (between, calling (plan generator host)) := by
  rw [noted_schedule, ← schedule_planned]
  exact noted_steps_succeed ran []

/-- A pass whose calls come to their ends hands over its units one by one, and
when a write fails it is the last thing that happens. -/
theorem stops_at_write {failure : Failure}
    (unwritten : Fails (context.units.mapM (handOver write)) between failure final) :
    ∃ events, StopsCleanly generator host write state (.error failure) final events := by
  obtain ⟨stored, unit, rest, written, middle, split, before, handed⟩ :=
    traversal_fails.mp unwritten
  have failed : Fails (write unit) middle failure final := by
    rcases fails_bind.mp handed with failed | ⟨outcome, stop, -, impossible⟩
    · exact failed
    · exact absurd impossible fails_pure
  have offered := noted_units_fail split before failed (calling (plan generator host))
  refine ⟨calling (plan generator host) ++ offering (stored ++ [unit]), ?_, ?_,
    .unwritten (plan_carried ran) split before (written_each before) failed, ?_, ?_⟩
  · exact fails_bind.mpr (.inr ⟨context, _, plan_noted ran, fails_bind.mpr (.inl offered)⟩)
  · exact fails_bind.mpr (.inr ⟨context, _, ran, fails_bind.mpr (.inl unwritten)⟩)
  · exact (callsOf_passed _ _).symm ▸ List.prefix_rfl
  · rintro outcome ⟨⟩

/-- When all units are handed over the pass is complete, with a record of each. -/
theorem completes {written : List WrittenUnit}
    (stored : Succeeds (context.units.mapM (handOver write)) between written final) :
    StopsCleanly generator host write state (.ok { context, written }) final
      (calling (plan generator host) ++ offering context.units) := by
  have offered := noted_units_succeed stored (calling (plan generator host))
  refine ⟨?_, ?_, .complete (plan_carried ran) stored (written_each stored), ?_, ?_⟩
  · exact succeeds_bind.mpr ⟨context, _, plan_noted ran,
      succeeds_bind.mpr ⟨written, _, offered, succeeds_pure.mpr ⟨rfl, rfl⟩⟩⟩
  · exact succeeds_bind.mpr ⟨context, _, ran,
      succeeds_bind.mpr ⟨written, _, stored, succeeds_pure.mpr ⟨rfl, rfl⟩⟩⟩
  · exact (callsOf_passed _ _).symm ▸ List.prefix_rfl
  · intro outcome done
    rw [callsOf_passed]
    exact ⟨rfl, phasesOf_plan generator host⟩

end Writes

/-- Every pass stops cleanly, whatever its plugins, phases and writer do and
whichever of them fail. What the emitter renders has no part in it: units are
made in a standard phase, by `Emitter.emit`, and that phase never fails. -/
theorem pass_stops_cleanly (generator : Generator σ) (host : Host) (write : Writer σ) (state : σ) :
    ∃ result final events, StopsCleanly generator host write state result final events := by
  rcases ends (generator.run host) state with
    ⟨context, between, ran⟩ | ⟨failure, final, stopped⟩
  · rcases ends (context.units.mapM (handOver write)) between with
      ⟨written, final, stored⟩ | ⟨failure, final, unwritten⟩
    · exact ⟨_, _, _, completes ran stored⟩
    · obtain ⟨events, stops⟩ : ∃ events,
          StopsCleanly generator host write state (.error failure) final events :=
        stops_at_write ran unwritten
      exact ⟨_, _, events, stops⟩
  · obtain ⟨events, stops⟩ : ∃ events,
        StopsCleanly generator host write state (.error failure) final events :=
      stops_at_call stopped
    exact ⟨_, _, events, stops⟩

end TypedRoutes.PassEnding
