import TypedRoutes.Proofs.PassPartition
import TypedRoutes.Proofs.ValidationRules

/-! Declarations that a pass refuses. A manifest vouches for a declaration when
its route marker has an argument and every property a type. This is more than a
descriptor takes, but for one thing: nothing says that the route name shows. So
a blank route name is the only reason for the build to refuse a declaration. -/
namespace TypedRoutes.RefusedDeclarations
open Pipeline Route Manifest PassExecution PassOutcome PassPartition ValidationRules

/-- The route name of a declaration: the first argument of its first marker of
the given short name. Later markers and arguments do not count. -/
def Named (declaration : Declaration) (short routeName : String) : Prop :=
  ∃ before marker after rest, declaration.markers = before ++ marker :: after ∧
    marker.shortName = short ∧ (∀ other ∈ before, other.shortName ≠ short) ∧
      marker.args = routeName :: rest

/-- Text that is there to see, so that some character of it is no white
space. -/
def Visible (text : String) : Prop :=
  ∃ c ∈ text.toList, Text.isSpace c = false

/-- A declaration whose route name is nothing but white space. The host vouches
for it, as it has a name. -/
def Blank (declaration : Declaration) (short : String) : Prop :=
  ∃ routeName, Named declaration short routeName ∧ ∀ c ∈ routeName.toList, Text.isSpace c = true

/-- What building a declaration comes to: a descriptor whose route name shows,
or the one refusal. Which of the two it is can be told from the route name. -/
structure Answered (settings : Settings) (declaration : Declaration) : Prop where
  built : (∃ descriptor, Descriptor.ofDeclaration settings declaration = .ok descriptor ∧
      Named declaration settings.routeMarker descriptor.routeName ∧ Visible descriptor.routeName) ∨
    Descriptor.ofDeclaration settings declaration = .error (.emptyRouteName declaration.id)
  refused : Descriptor.ofDeclaration settings declaration =
      .error (.emptyRouteName declaration.id) ↔ Blank declaration settings.routeMarker

/-- A descriptor whose templates start with text that is there to see. -/
structure Titled (descriptor : Descriptor) : Prop where
  visible : Visible descriptor.routeName
  key : ∃ slots, descriptor.key = descriptor.routeName ++ slots
  path : ∃ slots, descriptor.path = descriptor.routeName ++ slots

/-- The error about a declaration that has no descriptor, located at the
declaration. -/
def refusal (declaration : Declaration) (error : BuildError) : Diagnostic where
  severity := .error
  phase := "build"
  message := error.message
  location := some declaration.id.qualified

/-- The declarations that a pass over a manifest tries to build: those with the
marker that the host vouches for. -/
def Tried (manifest : Manifest) (declaration : Declaration) : Prop :=
  declaration ∈ manifest.marked manifest.settings.routeMarker ∧
    (Host.ofManifest manifest).isValid declaration = true

/-- A pass that came from the context `found` by its build to `built`, and by
the other standard phases to `settled`. -/
structure RefusesBlank (manifest : Manifest) (emitter : Emitter) (found built settled : Context) :
    Prop where
  settings : found.settings = manifest.settings
  discovered : found.discovered = manifest.marked manifest.settings.routeMarker
  answered : ∀ declaration, Tried manifest declaration → Answered found.settings declaration
  /-- The errors of the build are about the blank route names. -/
  errors : ∃ added, built.diagnostics = found.diagnostics ++ added ∧ ∀ diagnostic,
    (diagnostic ∈ added ∧ diagnostic.severity = .error) ↔ ∃ declaration,
      Tried manifest declaration ∧ Blank declaration manifest.settings.routeMarker ∧
        diagnostic = refusal declaration (.emptyRouteName declaration.id)
  titled : ∀ descriptor ∈ settled.descriptors, Titled descriptor
  /-- Nothing else is emitted. -/
  units : settled.units = settled.descriptors.map fun descriptor =>
    { emitter.emit descriptor with dependencies := .all manifest.sourceFiles }

/-! ## Building one declaration -/

section Building
variable {settings : Settings} {declaration : Declaration} {short : String}

private theorem named_iff {routeName : String} : Named declaration short routeName ↔
    ∃ marker, declaration.marker? short = some marker ∧ marker.args.head? = some routeName := by
  simp only [Declaration.marker?, List.find?_eq_some_iff_append, List.head?_eq_some_iff,
    beq_iff_eq, Bool.not_eq_true', beq_eq_false_iff_ne]
  constructor
  · rintro ⟨before, marker, after, rest, split, named, others, args⟩
    exact ⟨marker, ⟨named, before, after, split, others⟩, rest, args⟩
  · rintro ⟨marker, ⟨named, before, after, split, others⟩, rest, args⟩
    exact ⟨before, marker, after, rest, split, named, others, args⟩

private theorem Named.unique {first second : String} (named : Named declaration short first)
    (again : Named declaration short second) : first = second := by
  obtain ⟨marker, found, first⟩ := named_iff.mp named
  obtain ⟨other, same, second⟩ := named_iff.mp again
  cases found.symm.trans same
  exact Option.some.inj (first.symm.trans second)

private theorem resolved_named (marked : (declaration.marker? short).isSome)
    (resolved : declaration.isResolved short = true) :
    ∃ routeName, Named declaration short routeName := by
  obtain ⟨marker, found⟩ := Option.isSome_iff_exists.mp marked
  simp only [Declaration.isResolved, found, Option.all_some, Bool.and_eq_true] at resolved
  obtain ⟨routeName, rest, args⟩ := List.exists_cons_of_ne_nil (by simpa using resolved.1)
  exact ⟨routeName, named_iff.mpr ⟨marker, found, by rw [args]; rfl⟩⟩

private theorem fields_exist (id : DeclarationId) (encodeMarker : String)
    {properties : List Property}
    (resolved : ∀ property ∈ properties, property.isResolved = true) :
    ∃ fields, List.Forall₂ (fun property field =>
      Field.ofProperty id encodeMarker property = .ok field) properties fields := by
  induction properties with
  | nil => exact ⟨[], .nil⟩
  | cons property rest ih =>
    obtain ⟨typed, others⟩ := List.forall_mem_cons.mp resolved
    obtain ⟨fields, made⟩ := ih others
    cases found : property.type with
    | none => simp [Property.isResolved, found] at typed
    | some type => exact ⟨_, .cons (Descriptors.ofProperty_ok.mpr ⟨type, found, rfl⟩) made⟩

private theorem stored_resolved (resolved : declaration.isResolved short = true) :
    ∀ property ∈ declaration.storedProperties, property.isResolved = true := by
  simp only [Declaration.isResolved, Bool.and_eq_true, List.all_eq_true] at resolved
  intro property stored
  exact resolved.2 property (List.mem_of_mem_filter stored)

private theorem blank_refused {routeName : String}
    (named : Named declaration settings.routeMarker routeName)
    (blank : Text.isBlank routeName = true) :
    Descriptor.ofDeclaration settings declaration = .error (.emptyRouteName declaration.id) := by
  obtain ⟨marker, found, first⟩ := named_iff.mp named
  simp only [Descriptor.ofDeclaration, found, first, blank, ↓reduceIte]

private theorem visible_built {routeName : String}
    (named : Named declaration settings.routeMarker routeName)
    (resolved : declaration.isResolved settings.routeMarker = true)
    (shown : Text.isBlank routeName = false) :
    ∃ descriptor, Descriptor.ofDeclaration settings declaration = .ok descriptor ∧
      descriptor.routeName = routeName := by
  obtain ⟨marker, found, first⟩ := named_iff.mp named
  obtain ⟨fields, made⟩ :=
    fields_exist declaration.id settings.encodeMarker (stored_resolved resolved)
  exact ⟨⟨routeName, fields, declaration.id⟩,
    Descriptors.ofDeclaration_ok.mpr ⟨marker, found, first, shown, rfl, made⟩, rfl⟩

private theorem blank_iff {text : String} :
    Text.isBlank text = true ↔ ∀ c ∈ text.toList, Text.isSpace c = true :=
  List.all_eq_true

/-- Building a declaration that the host vouches for fails for a blank route
name only. All other causes of failure are what the host looks at. -/
theorem resolved_answered (marked : (declaration.marker? settings.routeMarker).isSome)
    (resolved : declaration.isResolved settings.routeMarker = true) :
    Answered settings declaration := by
  obtain ⟨routeName, named⟩ := resolved_named marked resolved
  cases shown : Text.isBlank routeName with
  | true =>
    have refused := blank_refused named shown
    exact ⟨.inr refused, iff_of_true refused ⟨routeName, named, blank_iff.mp shown⟩⟩
  | false =>
    obtain ⟨descriptor, built, rfl⟩ := visible_built named resolved shown
    refine ⟨.inl ⟨descriptor, built, named, visible_iff.mp shown⟩,
      iff_of_false (by simp [built]) ?_⟩
    rintro ⟨other, again, blank⟩
    rw [named.unique again, blank_iff.mpr blank] at shown
    cases shown

private theorem described_titled {descriptor : Descriptor}
    (built : Descriptor.ofDeclaration settings declaration = .ok descriptor) :
    Titled descriptor := by
  obtain ⟨-, -, -, shown, -⟩ := Descriptors.ofDeclaration_ok.mp built
  exact ⟨visible_iff.mp shown, ⟨_, rfl⟩, ⟨_, rfl⟩⟩

end Building

/-! ## The build of a pass -/

section Errors
variable {host : Host} {context : Context}

/-- What building one declaration reports: an error, a note that it is put off,
or nothing. -/
def told (host : Host) (settings : Settings) (declaration : Declaration) : List Diagnostic :=
  match verdict host settings declaration with
  | .waiting => [{
      severity := .info
      phase := "build"
      message := "'" ++ declaration.id.qualified ++ "' is not resolved yet, deferring"
      location := some declaration.id.qualified }]
  | .refused error => [refusal declaration error]
  | .described _ => []

private theorem buildOne_tells (context : Context) (declaration : Declaration) :
    (context.buildOne host declaration).diagnostics =
      context.diagnostics ++ told host context.settings declaration := by
  by_cases valid : host.isValid declaration = true
  · cases built : Descriptor.ofDeclaration context.settings declaration with
    | error error => simp [Context.buildOne, Context.report, told, verdict, valid, built, refusal]
    | ok descriptor => simp [Context.buildOne, told, verdict, valid, built]
  · simp [Context.buildOne, Context.report, told, verdict, valid]

/-- The build reports on one declaration after the other, behind what was
reported before. -/
theorem build_loop_tells (declarations : List Declaration) (context : Context) :
    (declarations.foldl (Context.buildOne host) context).diagnostics =
      context.diagnostics ++ declarations.flatMap (told host context.settings) := by
  induction declarations generalizing context with
  | nil => simp
  | cons declaration rest ih =>
    rw [List.foldl_cons, ih, buildOne_tells, (buildOne_files host context declaration).1,
      List.flatMap_cons, List.append_assoc]

/-- An error of the build is about a declaration that the host vouches for. -/
theorem told_error {settings : Settings} {declaration : Declaration} {diagnostic : Diagnostic} :
    (diagnostic ∈ told host settings declaration ∧ diagnostic.severity = .error) ↔
      host.isValid declaration = true ∧ ∃ error,
        Descriptor.ofDeclaration settings declaration = .error error ∧
          diagnostic = refusal declaration error := by
  by_cases valid : host.isValid declaration = true
  · cases built : Descriptor.ofDeclaration settings declaration with
    | error error =>
      simp only [told, verdict, valid, built, ↓reduceIte, List.mem_singleton, true_and,
        Except.error.injEq, exists_eq_left', and_iff_left_iff_imp]
      rintro rfl
      rfl
    | ok descriptor => simp [told, verdict, valid, built]
  · simp only [told, verdict, valid, Bool.false_eq_true, ↓reduceIte, List.mem_singleton,
      false_and, iff_false, not_and]
    rintro rfl
    simp

end Errors

section Pass
variable (manifest : Manifest)

/-- The context that the build of a pass starts from, with the discovered
declarations and a note on their number. -/
def found : Context :=
  (Context.initial (.ofManifest manifest)).discover (.ofManifest manifest)

variable {manifest}

private theorem tried_answered {declaration : Declaration} (tried : Tried manifest declaration) :
    Answered manifest.settings declaration :=
  resolved_answered (List.mem_filter.mp tried.1).2 tried.2

private theorem error_blank {declaration : Declaration} {error : BuildError}
    (tried : Tried manifest declaration) :
    Descriptor.ofDeclaration manifest.settings declaration = .error error ↔
      Blank declaration manifest.settings.routeMarker ∧ error = .emptyRouteName declaration.id := by
  have answered := tried_answered tried
  constructor
  · intro failed
    rcases answered.built with ⟨descriptor, built, -⟩ | refused
    · cases failed.symm.trans built
    · cases failed.symm.trans refused
      exact ⟨answered.refused.mp refused, rfl⟩
  · rintro ⟨blank, rfl⟩
    exact answered.refused.mpr blank

private theorem settle_titled {lints : List Lint} {emitter : Emitter} {descriptor : Descriptor}
    (member : descriptor ∈ (settle (.ofManifest manifest) lints emitter).descriptors) :
    Titled descriptor := by
  have files : (settle (.ofManifest manifest) lints emitter).descriptors =
      described (.ofManifest manifest) manifest.settings
        (manifest.marked manifest.settings.routeMarker) :=
    congrArg Context.descriptors (settle_files lints emitter)
  rw [files] at member
  obtain ⟨declaration, -, verdict⟩ := List.mem_filterMap.mp member
  exact described_titled (verdict_described.mp verdict).2

/-- There is a unit for every descriptor, at its place. -/
theorem settle_emits (lints : List Lint) (emitter : Emitter) :
    (settle (.ofManifest manifest) lints emitter).units =
      (settle (.ofManifest manifest) lints emitter).descriptors.map fun descriptor =>
        { emitter.emit descriptor with dependencies := .all manifest.sourceFiles } := by
  have files : filed (settle (.ofManifest manifest) lints emitter) = outcome (.ofManifest manifest)
      manifest.settings emitter manifest.settings.routeMarker := settle_files lints emitter
  have units := congrArg Context.units files
  have descriptors := congrArg Context.descriptors files
  simp only [filed, outcome] at units descriptors
  rw [units, descriptors]
  rfl

variable (manifest) in
private theorem build_refuses (lints : List Lint) (emitter : Emitter) :
    RefusesBlank manifest emitter (found manifest) ((found manifest).build (.ofManifest manifest))
      (settle (.ofManifest manifest) lints emitter) := by
  refine ⟨rfl, rfl, fun declaration => tried_answered, ?_, fun descriptor => settle_titled,
    settle_emits lints emitter⟩
  refine ⟨_, build_loop_tells _ _, fun diagnostic => ?_⟩
  constructor
  · rintro ⟨listed, severe⟩
    obtain ⟨declaration, member, own⟩ := List.mem_flatMap.mp listed
    obtain ⟨valid, error, failed, rfl⟩ := told_error.mp ⟨own, severe⟩
    have tried : Tried manifest declaration := ⟨member, valid⟩
    obtain ⟨blank, rfl⟩ := (error_blank tried).mp failed
    exact ⟨declaration, tried, blank, rfl⟩
  · rintro ⟨declaration, tried, blank, rfl⟩
    have failed := (error_blank tried).mpr ⟨blank, rfl⟩
    have own := (told_error.mpr ⟨tried.2, _, failed, rfl⟩).1
    exact ⟨List.mem_flatMap.mpr ⟨declaration, tried.1, own⟩, rfl⟩

/-- A pass over any manifest without plugins, whatever it renders and lints and
whichever phases follow the standard ones, refuses a declaration that the
manifest vouches for only if its route name is blank. Of the emitter only its
rendering is open: the title of a unit comes from `Emitter.emit`. -/
theorem refusals_blank {σ : Type} (manifest : Manifest) (emitter : Emitter) (lints : List Lint)
    (phases : List (Phase σ)) :
    ∃ before build between found built settled,
      ({ emitter, lints, phases } : Generator σ).schedule (.ofManifest manifest) =
        before ++ build :: between ++ phases.flatMap (phaseSteps []) ∧
      runSteps before (.initial (.ofManifest manifest)) = pure found ∧
      build.call = .phase "build" ∧ build.run found = pure built ∧
      runSteps between built = pure settled ∧
      RefusesBlank manifest emitter found built settled :=
  ⟨phaseSteps [] _, _, phaseSteps [] _ ++ phaseSteps [] _ ++ phaseSteps [] _, found manifest,
    _, _, rfl, rfl, rfl, rfl, rfl, build_refuses manifest lints emitter⟩

end Pass

end TypedRoutes.RefusedDeclarations
