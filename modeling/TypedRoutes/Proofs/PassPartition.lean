import Mathlib.Data.List.Nodup
import TypedRoutes.Proofs.Descriptors
import TypedRoutes.Proofs.PassOutcome

/-! A pass partitions what it discovers. Every declaration ends in exactly one
of the units, the invalid and the rejected, and the declarations put aside for
a later round are those in the last two, although the build and the later
classification decide this by different tests. -/
namespace TypedRoutes.PassPartition
open Pipeline Route PassExecution PassOutcome

variable {host : Host} {settings : Manifest.Settings} {declarations : List Manifest.Declaration}

/-- A descriptor remembers the declaration that it was built from, and through
it so does the unit. -/
theorem described_source {declaration : Manifest.Declaration} {descriptor : Descriptor}
    (built : Descriptor.ofDeclaration settings declaration = .ok descriptor) :
    descriptor.source = declaration.id := by
  obtain ⟨-, -, -, -, source, -⟩ := Descriptors.ofDeclaration_ok.mp built
  exact source

/-- There is a descriptor just for a declaration that the host vouches for and
that has no build error. -/
theorem verdict_described {declaration : Manifest.Declaration} {descriptor : Descriptor} :
    (verdict host settings declaration).descriptor? = some descriptor ↔
      host.isValid declaration = true ∧
        Descriptor.ofDeclaration settings declaration = .ok descriptor := by
  unfold verdict
  split
  · rename_i valid
    cases built : Descriptor.ofDeclaration settings declaration with
    | error error => simp [Verdict.descriptor?]
    | ok other => simp [Verdict.descriptor?, valid]
  · rename_i invalid
    simp [Verdict.descriptor?, invalid]

theorem verdict_source {declaration : Manifest.Declaration} {descriptor : Descriptor}
    (found : (verdict host settings declaration).descriptor? = some descriptor) :
    descriptor.source = declaration.id :=
  described_source (verdict_described.mp found).2

theorem verdict_isWaiting (declaration : Manifest.Declaration) :
    (verdict host settings declaration).isWaiting = !host.isValid declaration := by
  unfold verdict
  split
  · rename_i valid
    split <;> simp [Verdict.isWaiting, valid]
  · rename_i invalid
    simp [Verdict.isWaiting, invalid]

variable (host settings) in
/-- The three lists together are the discovered declarations, in another order.
None is lost, and none is on two lists. -/
theorem verdicts_perm (declarations : List Manifest.Declaration) :
    ((described host settings declarations).map (·.source) ++
      waiting host settings declarations ++ refused host settings declarations).Perm
        (declarations.map (·.id)) := by
  induction declarations with
  | nil => exact .refl _
  | cons declaration rest ih =>
    cases decided : verdict host settings declaration with
    | waiting =>
      rw [List.append_assoc] at ih
      simp only [described, waiting, refused] at ih ⊢
      simpa [decided, Verdict.descriptor?, Verdict.isWaiting, Verdict.isRefused] using
        List.perm_middle.trans (ih.cons declaration.id)
    | refused error =>
      simp only [described, waiting, refused] at ih ⊢
      simpa [decided, Verdict.descriptor?, Verdict.isWaiting, Verdict.isRefused] using
        List.perm_middle.trans (ih.cons declaration.id)
    | described descriptor =>
      have found : (verdict host settings declaration).descriptor? = some descriptor := by
        rw [decided]
        rfl
      have source := verdict_source found
      simp only [described, waiting, refused] at ih ⊢
      simpa [decided, Verdict.descriptor?, Verdict.isWaiting, Verdict.isRefused, source] using
        ih.cons declaration.id

variable (host settings) in
/-- Descriptors come in the order of their declarations, with gaps where there
are none. -/
theorem described_in_order (declarations : List Manifest.Declaration) :
    ((described host settings declarations).map (·.source)).Sublist
      (declarations.map (·.id)) := by
  induction declarations with
  | nil => exact .refl _
  | cons declaration rest ih =>
    cases found : (verdict host settings declaration).descriptor? with
    | none => simpa [described, found] using ih.cons declaration.id
    | some descriptor =>
      simpa [described, found, verdict_source found] using ih.cons_cons declaration.id

/-- Among declarations with distinct identities an identity is that of a
selected declaration just when its own declaration is selected. -/
theorem id_mem_selected (distinct : (declarations.map (·.id)).Nodup)
    (select : Manifest.Declaration → Bool) {declaration : Manifest.Declaration}
    (member : declaration ∈ declarations) :
    declaration.id ∈ (declarations.filter select).map (·.id) ↔ select declaration = true := by
  constructor
  · intro listed
    obtain ⟨other, held, same⟩ := List.mem_map.mp listed
    obtain ⟨otherMember, selected⟩ := List.mem_filter.mp held
    rwa [← List.inj_on_of_nodup_map distinct otherMember member same]
  · intro selected
    exact List.mem_map_of_mem (List.mem_filter.mpr ⟨member, selected⟩)

/-- What the final context of a pass says about the declarations discovered:
where each of them is, in what order, and when nothing is left to do. -/
structure Partitioned (context : Context) : Prop where
  /-- Every declaration is in exactly one of the three lists, and there once. -/
  once : ∀ declaration ∈ context.discovered,
    (context.units.map (·.source)).count declaration.id +
      context.invalid.count declaration.id + context.rejected.count declaration.id = 1
  /-- Nothing else is in them. -/
  perm : (context.units.map (·.source) ++ context.invalid ++ context.rejected).Perm
    (context.discovered.map (·.id))
  units_in_order : (context.units.map (·.source)).Sublist (context.discovered.map (·.id))
  invalid_in_order : context.invalid.Sublist (context.discovered.map (·.id))
  rejected_in_order : context.rejected.Sublist (context.discovered.map (·.id))
  units_described : context.units.map (·.source) = context.descriptors.map (·.source)
  /-- The declarations put aside are the invalid and the rejected ones. -/
  retried : context.retry = (context.discovered.map (·.id)).filter fun id =>
    id ∈ context.invalid ∨ id ∈ context.rejected
  /-- Nothing is put aside just when every declaration has a unit. -/
  complete : context.retry = [] ↔
    ∀ declaration ∈ context.discovered, declaration.id ∈ context.units.map (·.source)

private theorem retried_iff (distinct : (declarations.map (·.id)).Nodup)
    {declaration : Manifest.Declaration} (member : declaration ∈ declarations) :
    (!host.isValid declaration ||
        (refused host settings declarations).contains declaration.id) =
      decide (declaration.id ∈ waiting host settings declarations ∨
        declaration.id ∈ refused host settings declarations) := by
  have held := id_mem_selected distinct
    (fun declaration => (verdict host settings declaration).isWaiting) member
  simp only [verdict_isWaiting] at held
  simp only [waiting, verdict_isWaiting, List.contains_eq_mem, Bool.decide_or, held,
    Bool.decide_eq_true]

theorem unit_sources (emitter : Emitter) (files : List String) (descriptors : List Descriptor) :
    (descriptors.map fun descriptor =>
      { emitter.emit descriptor with dependencies := Dependencies.all files }).map
        (GeneratedUnit.source ·) = descriptors.map (·.source) := by
  simp [Emitter.emit]

/-- The units are those that are emitted from the descriptors of the
declarations that were discovered and vouched for. A unit can be traced to its
declaration by this. -/
theorem unit_emitted {emitter : Emitter} {marker : String} {context : Context}
    {unit : GeneratedUnit} (files : filed context = outcome host settings emitter marker) :
    unit ∈ context.units ↔
      ∃ declaration ∈ host.marked marker, ∃ descriptor, host.isValid declaration = true ∧
        Descriptor.ofDeclaration settings declaration = .ok descriptor ∧
        unit = { emitter.emit descriptor with dependencies := .all host.sourceFiles } := by
  have same : unit ∈ context.units ↔ unit ∈ (filed context).units := Iff.rfl
  rw [same, files]
  constructor
  · intro member
    obtain ⟨descriptor, held, rfl⟩ := List.mem_map.mp member
    obtain ⟨declaration, discovered, found⟩ := List.mem_filterMap.mp held
    obtain ⟨valid, built⟩ := verdict_described.mp found
    exact ⟨declaration, discovered, descriptor, valid, built, rfl⟩
  · rintro ⟨declaration, discovered, descriptor, valid, built, rfl⟩
    exact List.mem_map.mpr ⟨descriptor, List.mem_filterMap.mpr
      ⟨declaration, discovered, verdict_described.mpr ⟨valid, built⟩⟩, rfl⟩

/-- The outcome of a pass partitions distinct declarations. Were two of one
identity discovered, their lists could not tell them apart. -/
theorem outcome_partitioned {emitter : Emitter} {marker : String}
    (distinct : ((host.marked marker).map (·.id)).Nodup) :
    Partitioned (outcome host settings emitter marker) := by
  have sources := unit_sources emitter host.sourceFiles
    (described host settings (host.marked marker))
  have perm := verdicts_perm host settings (host.marked marker)
  have once : ∀ declaration ∈ host.marked marker,
      ((described host settings (host.marked marker)).map (·.source)).count declaration.id +
        (waiting host settings (host.marked marker)).count declaration.id +
        (refused host settings (host.marked marker)).count declaration.id = 1 := by
    intro declaration member
    rw [← List.count_append, ← List.count_append, perm.count_eq]
    exact List.count_eq_one_of_mem distinct (List.mem_map_of_mem member)
  have retried : ((host.marked marker).filter fun declaration => !host.isValid declaration ||
        (refused host settings (host.marked marker)).contains declaration.id).map (·.id) =
      ((host.marked marker).map (·.id)).filter fun id =>
        id ∈ waiting host settings (host.marked marker) ∨
          id ∈ refused host settings (host.marked marker) := by
    rw [List.filter_map]
    exact congrArg (List.map (·.id))
      (List.filter_congr fun declaration member => retried_iff distinct member)
  refine ⟨?_, ?_, ?_, List.filter_sublist.map _, List.filter_sublist.map _, ?_, retried, ?_⟩
  · intro declaration member
    simpa only [outcome, sources] using once declaration member
  · simpa only [outcome, sources] using perm
  · simpa only [outcome, sources] using described_in_order host settings (host.marked marker)
  · simp only [outcome, sources]
  · simp only [outcome, sources, retried, List.filter_eq_nil_iff, List.forall_mem_map,
      decide_eq_true_eq]
    refine forall₂_congr fun declaration member => ?_
    have one := once declaration member
    rw [← List.count_pos_iff (a := declaration.id), ← List.count_pos_iff (a := declaration.id),
      ← List.count_pos_iff (a := declaration.id)]
    omega

/-- After a pass whose plugins and further phases at most report and change the
settings, the distinct declarations that the host gave are partitioned. The
emitter may be any at all: it renders the text of a unit, and whose unit it is
comes from `Emitter.emit`, which all emitters share. -/
theorem run_partitions {σ : Type} {generator : Generator σ}
    (restrained : ∀ plugin ∈ generator.plugins, Restrained plugin)
    (further : ∀ phase ∈ generator.phases, LeavesFiled phase.run)
    {context : Context} {state final : σ}
    (ran : Succeeds (generator.run host) state context final)
    (distinct : (context.discovered.map (·.id)).Nodup) :
    (∃ marker, context.discovered = host.marked marker) ∧ Partitioned context := by
  obtain ⟨settings, marker, files⟩ := run_files restrained further ran
  have discovered : context.discovered = host.marked marker := congrArg Context.discovered files
  have partitioned : Partitioned (filed context) := by
    rw [files]
    exact outcome_partitioned (discovered ▸ distinct)
  exact ⟨⟨marker, discovered⟩, partitioned.once, partitioned.perm, partitioned.units_in_order,
    partitioned.invalid_in_order, partitioned.rejected_in_order, partitioned.units_described,
    partitioned.retried, partitioned.complete⟩

/-- A plugin that counts the phases and has the build look for another marker,
which restrained plugins may do. -/
def switching : Plugin Nat where
  name := "switching"
  before phase context := do
    modify (· + 1)
    return if phase = "build" then { context with settings.routeMarker := "Screen" } else context
  after phase context := return context.report {
    severity := .warning
    phase := "switching"
    message := "saw " ++ phase }

private theorem switching_restrained : Restrained switching := by
  constructor
  · intro phase before after state final ran
    obtain ⟨middle, between, -, ran⟩ := succeeds_bind.mp ran
    obtain ⟨rfl, -⟩ := succeeds_pure.mp ran
    split <;> rfl
  · intro phase before after state final ran
    obtain ⟨rfl, -⟩ := succeeds_pure.mp ran
    rfl

/-- Three declarations: one with a route, one with a blank route, and one that
the host does not vouch for. -/
def mixedHost : Host where
  settings := {}
  marked short := [
    { name := "Home", markers := [⟨short, []⟩, ⟨"Screen", ["home"]⟩] },
    { name := "Blank", markers := [⟨short, ["blank"]⟩, ⟨"Screen", [" "]⟩] },
    { name := "Late", package := "com.app", markers := [⟨short, ["late"]⟩] }]
  sourceFiles := []
  isValid declaration := declaration.package = ""

def mixedGenerator : Generator Nat where
  emitter := ⟨"text", "txt", Descriptor.key⟩
  plugins := [switching, switching]
  phases := [⟨"note", "Report once more", fun context =>
    return context.report { severity := .info, phase := "note", message := "done" }⟩]

theorem run_partitions_mixed : ∃ context final,
    Succeeds (mixedGenerator.run mixedHost) 0 context final ∧
      (context.discovered.map (·.id)).Nodup ∧
      context.units.map (·.source) = [⟨"", "Home"⟩] ∧
      context.retry = [⟨"", "Blank"⟩, ⟨"com.app", "Late"⟩] ∧ Partitioned context := by
  have further : ∀ phase ∈ mixedGenerator.phases, LeavesFiled phase.run := by
    simp only [mixedGenerator, List.mem_singleton, forall_eq]
    intro before after state final ran
    obtain ⟨rfl, -⟩ := succeeds_pure.mp ran
    rfl
  have restrained : ∀ plugin ∈ mixedGenerator.plugins, Restrained plugin := by
    intro plugin member
    have same : plugin = switching := by simpa [mixedGenerator] using member
    exact same ▸ switching_restrained
  have shown : ((ExceptT.run (mixedGenerator.run mixedHost)).run 0).1.toOption.map (fun context =>
      (context.discovered.map (·.id), context.units.map (·.source), context.retry)) =
        some ([⟨"", "Home"⟩, ⟨"", "Blank"⟩, ⟨"com.app", "Late"⟩], [⟨"", "Home"⟩],
          [⟨"", "Blank"⟩, ⟨"com.app", "Late"⟩]) := by
    decide +kernel
  obtain ⟨context, final, ran, same⟩ := succeeds_shown shown
  simp only [Prod.mk.injEq] at same
  obtain ⟨discovered, sources, retry⟩ := same
  have distinct : (context.discovered.map (·.id)).Nodup := by
    rw [discovered]
    decide
  exact ⟨context, final, ran, distinct, sources, retry,
    (run_partitions restrained further ran distinct).2⟩

end TypedRoutes.PassPartition
