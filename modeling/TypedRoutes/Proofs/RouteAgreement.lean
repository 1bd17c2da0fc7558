import TypedRoutes.Command.Route
import TypedRoutes.Proofs.PassPartition

/-! Concrete paths and passes agree. Finding a declaration and filling in its
route is a way of its own around discovery and build, and still it succeeds for
just those declarations that a pass builds a descriptor from, and the path is
that very descriptor's. Of several values for one field the last one counts. -/
namespace TypedRoutes.RouteAgreement
open Command Pipeline Route PassExecution PassOutcome PassPartition SoundManifests Descriptors

/-! ## What a pass builds -/

/-- A pass over the host that ended in the context built the descriptor from the
declaration: its build came to the declaration and appended the descriptor, and
there it has stayed. -/
def Builds (host : Host) (context : Context) (declaration : Manifest.Declaration)
    (descriptor : Descriptor) : Prop :=
  ∃ before after, context.discovered = before ++ declaration :: after ∧
    let reached := before.foldl (Context.buildOne host) ((Context.initial host).discover host)
    (reached.buildOne host declaration).descriptors = reached.descriptors ++ [descriptor] ∧
      reached.descriptors ++ [descriptor] <+: context.descriptors

section Pass
variable {host : Host} {lints : List Lint} {emitter : Emitter}

private theorem build_loop_settings (declarations : List Manifest.Declaration) (context : Context) :
    (declarations.foldl (Context.buildOne host) context).settings = context.settings := by
  induction declarations generalizing context with
  | nil => rfl
  | cons declaration rest ih =>
    rw [List.foldl_cons, ih, (buildOne_files host context declaration).1]

/-- The descriptors that the build has made when it comes to a declaration are
those of the declarations before it. -/
theorem build_reaches (declarations : List Manifest.Declaration) :
    (declarations.foldl (Context.buildOne host)
      ((Context.initial host).discover host)).descriptors =
        described host host.settings declarations := by
  have files := build_loop_files host declarations ((Context.initial host).discover host)
  exact congrArg Context.descriptors files

private theorem described_singleton {settings : Manifest.Settings}
    {declaration : Manifest.Declaration}
    {descriptor : Descriptor} :
    described host settings [declaration] = [descriptor] ↔
      (verdict host settings declaration).descriptor? = some descriptor := by
  cases found : (verdict host settings declaration).descriptor? with
  | none => simp [described, found]
  | some other => simp [described, found]

/-- A pass builds just the descriptors of its verdicts, so being built no longer
has to be traced through the loop. -/
theorem builds_iff {declaration : Manifest.Declaration} {descriptor : Descriptor} :
    Builds host (settle host lints emitter) declaration descriptor ↔
      declaration ∈ host.marked host.settings.routeMarker ∧
        (verdict host host.settings declaration).descriptor? = some descriptor := by
  have files : filed (settle host lints emitter) = outcome host _ emitter _ := settle_files _ _
  have discovered : (settle host lints emitter).discovered =
    host.marked host.settings.routeMarker := congrArg Context.discovered files
  have descriptors : (settle host lints emitter).descriptors =
    described host host.settings (host.marked host.settings.routeMarker) :=
      congrArg Context.descriptors files
  have step (before : List Manifest.Declaration) :
      let reached := before.foldl (Context.buildOne host) ((Context.initial host).discover host)
      (reached.buildOne host declaration).descriptors = reached.descriptors ++ [descriptor] ↔
        (verdict host host.settings declaration).descriptor? = some descriptor := by
    intro reached
    have settings : reached.settings = host.settings := build_loop_settings before _
    have filing := congrArg Context.descriptors (buildOne_files host reached declaration).2
    rw [settings] at filing
    rw [← described_singleton, show (reached.buildOne host declaration).descriptors =
      reached.descriptors ++ described host host.settings [declaration] from filing,
      List.append_cancel_left_eq]
  constructor
  · rintro ⟨before, after, split, appended, -⟩
    refine ⟨?_, (step before).mp appended⟩
    rw [← discovered, split]
    simp
  · rintro ⟨member, decided⟩
    obtain ⟨before, after, split⟩ := List.append_of_mem member
    refine ⟨before, after, discovered.trans split, (step before).mpr decided, ?_⟩
    rw [build_reaches, descriptors, split, ← described_singleton.mpr decided, List.append_cons]
    simp only [described, ← List.filterMap_append]
    rw [List.filterMap_append (l := before ++ [declaration])]
    exact List.prefix_append _ _

end Pass

/-! ## What a request needs -/

/-- A pair is for a field of the descriptor, and the first field of that name
can hold its value. -/
def Fitting (descriptor : Descriptor) (pair : String × String) : Prop :=
  ∃ before field after, descriptor.fields = before ++ field :: after ∧ field.name = pair.1 ∧
    (∀ other ∈ before, other.name ≠ pair.1) ∧ accepts field.kind pair.2 = true

/-- The last pair for a field gives it the value, whatever pairs in front of it
give. -/
def LastGiven (pairs : List (String × String)) (field value : String) : Prop :=
  ∃ before after, pairs = before ++ (field, value) :: after ∧ ∀ pair ∈ after, pair.1 ≠ field

/-- The path of the descriptor with the last value given for every field. Values
of fields that there are not have no part in it. -/
def Leads (descriptor : Descriptor) (pairs : List (String × String)) (path : String) : Prop :=
  ∃ values : String → String,
    (∀ field ∈ descriptor.fields, LastGiven pairs field.name (values field.name)) ∧
      (Template.ofDescriptor descriptor).expand (fun name => some (values name)) = .ok path

variable {descriptor : Descriptor} {pairs : List (String × String)}

/-- A value passes its check just when it fits. -/
theorem checkValue_ok {pair : String × String} :
    checkValue descriptor pair = .ok () ↔ Fitting descriptor pair := by
  unfold checkValue Fitting
  constructor
  · intro checked
    cases found : descriptor.fields.find? (·.name == pair.1) with
    | none => simp [found] at checked
    | some field =>
      simp only [found] at checked
      split at checked
      · rename_i accepted
        obtain ⟨named, before, after, split, apart⟩ := List.find?_eq_some_iff_append.mp found
        refine ⟨before, field, after, split, beq_iff_eq.mp named, ?_, accepted⟩
        intro other member
        simpa using apart other member
      · cases checked
  · rintro ⟨before, field, after, split, named, apart, accepted⟩
    have found : descriptor.fields.find? (·.name == pair.1) = some field := by
      refine List.find?_eq_some_iff_append.mpr ⟨beq_iff_eq.mpr named, before, after, split, ?_⟩
      intro other member
      simpa using apart other member
    simp only [found, if_pos accepted]

theorem checks_ok_iff : pairs.forM (checkValue descriptor) = .ok () ↔
    ∀ pair ∈ pairs, Fitting descriptor pair := by
  induction pairs with
  | nil => simp [List.forM, pure, Except.pure]
  | cons pair rest ih => rw [List.forM, checks_ok, ih, checkValue_ok, List.forall_mem_cons]

/-- Looking through the pairs from the end finds the last value given. -/
theorem lastValue_iff {field value : String} :
    lastValue pairs field = some value ↔ LastGiven pairs field value := by
  unfold lastValue
  constructor
  · intro found
    obtain ⟨after, before, split, apart⟩ := List.lookup_eq_some_iff.mp found
    refine ⟨before.reverse, after.reverse, ?_, ?_⟩
    · rw [← List.reverse_reverse pairs, split]
      simp
    · intro pair member
      exact (bne_iff_ne.mp (apart pair (List.mem_reverse.mp member))).symm
  · rintro ⟨before, after, rfl, apart⟩
    refine List.lookup_eq_some_iff.mpr ⟨after.reverse, before.reverse, by simp, ?_⟩
    intro pair member
    exact bne_iff_ne.mpr (apart pair (List.mem_reverse.mp member)).symm

theorem LastGiven.unique {field value other : String} (last : LastGiven pairs field value)
    (again : LastGiven pairs field other) : value = other :=
  Option.some.inj ((lastValue_iff.mpr last).symm.trans (lastValue_iff.mpr again))

private theorem lastGiven_exists {field : String} :
    (∃ value, LastGiven pairs field value) ↔ ∃ pair ∈ pairs, pair.1 = field := by
  constructor
  · rintro ⟨value, before, after, rfl, -⟩
    exact ⟨(field, value), by simp, rfl⟩
  · rintro ⟨pair, member, named⟩
    cases found : lastValue pairs field with
    | some value => exact ⟨value, lastValue_iff.mp found⟩
    | none =>
      have apart := List.lookup_eq_none_iff.mp found pair (List.mem_reverse.mpr member)
      exact absurd named.symm (bne_iff_ne.mp apart)

private theorem expandSlots_given {given : String → Option String} {values : String → String}
    {slots : List Slot} (all : ∀ slot ∈ slots, given slot.name = some (values slot.name)) :
    Template.expandSlots given slots = .ok (String.join
      (slots.map fun slot => "/" ++ Template.segment slot (values slot.name))) := by
  induction slots with
  | nil => rfl
  | cons slot rest ih =>
    obtain ⟨first, others⟩ := List.forall_mem_cons.mp all
    simp only [Template.expandSlots, first, ih others, Except.map, List.map_cons, String.join_cons]

private theorem expand_given {template : Template} {given : String → Option String}
    {values : String → String}
    (all : ∀ slot ∈ template.slots, given slot.name = some (values slot.name)) :
    template.expand given =
      .ok (template.assemble fun slot => Template.segment slot (values slot.name)) := by
  simp only [Template.expand, expandSlots_given all, Except.map, Template.assemble]

/-- With a value for every name a template always expands, to its screen and one
segment for each slot. -/
theorem expand_total (template : Template) (values : String → String) :
    template.expand (fun name => some (values name)) =
      .ok (template.assemble fun slot => Template.segment slot (values slot.name)) :=
  expand_given fun _ _ => rfl

private theorem expandSlots_complete {given : String → Option String} {slots : List Slot}
    {rest : String}
    (expanded : Template.expandSlots given slots = .ok rest) :
    ∀ slot ∈ slots, ∃ value, given slot.name = some value := by
  induction slots generalizing rest with
  | nil => simp
  | cons slot slots ih =>
    cases here : given slot.name with
    | none => simp [Template.expandSlots, here] at expanded
    | some value =>
      cases later : Template.expandSlots given slots with
      | error error => simp [Template.expandSlots, here, later, Except.map] at expanded
      | ok below => exact List.forall_mem_cons.mpr ⟨⟨value, here⟩, ih later⟩

/-- A template that expands has been given a value for every slot. -/
theorem expand_complete {template : Template} {given : String → Option String} {path : String}
    (expanded : template.expand given = .ok path) :
    ∀ slot ∈ template.slots, ∃ value, given slot.name = some value := by
  unfold Template.expand at expanded
  cases slots : Template.expandSlots given template.slots with
  | error error => simp [slots, Except.map] at expanded
  | ok rest => exact expandSlots_complete slots

private theorem expand_last {values : String → String}
    (last : ∀ field ∈ descriptor.fields, LastGiven pairs field.name (values field.name)) :
    (Template.ofDescriptor descriptor).expand (lastValue pairs) =
      (Template.ofDescriptor descriptor).expand fun name => some (values name) := by
  rw [expand_total]
  exact expand_given (List.forall_mem_map.mpr fun field member =>
    lastValue_iff.mpr (last field member))

/-- Values given for all fields lead to a path, and only such values do. -/
theorem leads_exists : (∃ path, Leads descriptor pairs path) ↔
    ∀ field ∈ descriptor.fields, ∃ pair ∈ pairs, pair.1 = field.name := by
  constructor
  · rintro ⟨path, values, last, -⟩ field member
    exact lastGiven_exists.mp ⟨_, last field member⟩
  · intro named
    refine ⟨_, fun name => (lastValue pairs name).getD "", ?_, expand_total _ _⟩
    intro field member
    obtain ⟨value, last⟩ := lastGiven_exists.mpr (named field member)
    simpa only [lastValue_iff.mpr last, Option.getD_some] using last

private theorem expand_leads {path : String} :
    (Template.ofDescriptor descriptor).expand (lastValue pairs) = .ok path ↔
      Leads descriptor pairs path := by
  constructor
  · intro expanded
    have named : ∀ field ∈ descriptor.fields, ∃ pair ∈ pairs, pair.1 = field.name := by
      intro field member
      obtain ⟨value, found⟩ := expand_complete expanded _ (List.mem_map_of_mem member)
      exact lastGiven_exists.mp ⟨value, lastValue_iff.mp found⟩
    obtain ⟨other, values, last, -⟩ := leads_exists.mpr named
    exact ⟨values, last, expand_last last ▸ expanded⟩
  · rintro ⟨values, last, expanded⟩
    rw [expand_last last, expanded]

/-! ## What a request answers -/

/-- The path that values lead to once every one of them is checked. A value is
checked even when a later one for the same field takes its place. -/
def fill (descriptor : Descriptor) (pairs : List (String × String)) : Except RouteError String := do
  pairs.forM (checkValue descriptor)
  ((Template.ofDescriptor descriptor).expand (lastValue pairs)).mapError .expand

private theorem fill_ok {path : String} : fill descriptor pairs = .ok path ↔
    (∀ pair ∈ pairs, Fitting descriptor pair) ∧ Leads descriptor pairs path := by
  unfold fill
  rw [except_bind_ok, ← checks_ok_iff, ← expand_leads]
  constructor
  · rintro ⟨⟨⟩, checked, expanded⟩
    refine ⟨checked, ?_⟩
    cases reached : (Template.ofDescriptor descriptor).expand (lastValue pairs) with
    | error error => simp [reached, Except.mapError] at expanded
    | ok other =>
      rw [reached] at expanded
      cases expanded
      rfl
  · rintro ⟨checked, expanded⟩
    exact ⟨(), checked, by rw [expanded]; rfl⟩

/-- The pass that ended in the context built the descriptor from the declaration
that the name finds. -/
def BuiltFor (manifest : Manifest) (context : Context) (name : String) (descriptor : Descriptor) :
    Prop :=
  ∃ declaration, manifest.find? name = some declaration ∧
    Builds (.ofManifest manifest) context declaration descriptor

/-- The declaration that the name finds is vouched for and has the descriptor.
It is told without a pass, as a request has none. -/
def Serves (manifest : Manifest) (name : String) (descriptor : Descriptor) : Prop :=
  ∃ declaration, manifest.find? name = some declaration ∧
    (Host.ofManifest manifest).isValid declaration = true ∧
      Descriptor.ofDeclaration manifest.settings declaration = .ok descriptor

section Requests
variable {manifest : Manifest} {name : String}

/-- A pass discovers every declaration that has a descriptor, so it builds just
those that a request is served with. -/
theorem builtFor_iff {lints : List Lint} {emitter : Emitter} :
    BuiltFor manifest (settle (.ofManifest manifest) lints emitter) name descriptor ↔
      Serves manifest name descriptor := by
  unfold BuiltFor Serves
  refine exists_congr fun declaration => and_congr_right fun found => ?_
  rw [builds_iff, verdict_described]
  constructor
  · exact And.right
  · rintro ⟨valid, built⟩
    have member : declaration ∈ manifest.marked manifest.settings.routeMarker :=
      List.mem_filter.mpr ⟨List.mem_of_find?_eq_some found, described_marked built⟩
    exact ⟨member, valid, built⟩

variable (manifest name) in
/-- A request either is about a declaration with a descriptor, which is then
filled in, or fails whatever values it gives. -/
theorem route_cases :
    (∃ descriptor, Serves manifest name descriptor ∧
      ∀ pairs, route manifest name pairs = fill descriptor pairs) ∨
    (∃ error, (∀ descriptor, ¬ Serves manifest name descriptor) ∧
      ∀ pairs, route manifest name pairs = .error error) := by
  cases found : manifest.find? name with
  | none =>
    refine .inr ⟨.unknownDeclaration name, ?_, fun pairs => by simp only [route, found]⟩
    rintro descriptor ⟨declaration, other, -⟩
    cases found.symm.trans other
  | some declaration =>
    by_cases valid : (Host.ofManifest manifest).isValid declaration = true
    · cases built : Descriptor.ofDeclaration manifest.settings declaration with
      | error error =>
        refine .inr ⟨.build error, ?_, fun pairs => ?_⟩
        · rintro descriptor ⟨other, same, -, served⟩
          cases found.symm.trans same
          cases built.symm.trans served
        · simp [route, found, valid, built, Except.mapError, bind, Except.bind]
      | ok descriptor =>
        refine .inl ⟨descriptor, ⟨declaration, found, valid, built⟩, fun pairs => ?_⟩
        simp [route, found, valid, built, fill, Except.mapError, bind, Except.bind]
    · refine .inr ⟨.unresolved declaration.qualifiedName, ?_, fun pairs => ?_⟩
      · rintro descriptor ⟨other, same, vouched, -⟩
        cases found.symm.trans same
        exact valid vouched
      · simp [route, found, valid]

private theorem Serves.unique {other : Descriptor} (serves : Serves manifest name descriptor)
    (again : Serves manifest name other) : descriptor = other := by
  obtain ⟨declaration, found, -, built⟩ := serves
  obtain ⟨same, otherFound, -, otherBuilt⟩ := again
  cases found.symm.trans otherFound
  cases built.symm.trans otherBuilt
  rfl

/-- When a request succeeds and with what path, in terms of what it gives. -/
theorem route_ok {path : String} : route manifest name pairs = .ok path ↔
    ∃ descriptor, Serves manifest name descriptor ∧
      (∀ pair ∈ pairs, Fitting descriptor pair) ∧ Leads descriptor pairs path := by
  rcases route_cases manifest name with ⟨descriptor, serves, filled⟩ | ⟨error, unserved, fails⟩
  · rw [filled, fill_ok]
    constructor
    · rintro ⟨fitting, leads⟩
      exact ⟨descriptor, serves, fitting, leads⟩
    · rintro ⟨other, again, fitting, leads⟩
      cases serves.unique again
      exact ⟨fitting, leads⟩
  · rw [fails]
    constructor
    · intro reached
      cases reached
    · rintro ⟨descriptor, serves, -⟩
      exact absurd serves (unserved descriptor)

end Requests

/-! ## Order of the values -/

variable {before after : List (String × String)} {first second : String × String}

private theorem lastValue_swap (apart : first.1 ≠ second.1) :
    lastValue (before ++ first :: second :: after) =
      lastValue (before ++ second :: first :: after) := by
  obtain ⟨firstName, firstValue⟩ := first
  obtain ⟨secondName, secondValue⟩ := second
  funext field
  simp only [lastValue, List.reverse_append, List.reverse_cons, List.append_assoc,
    List.lookup_append, List.lookup_cons, List.lookup_nil]
  by_cases named : field = firstName
  · subst named
    have other : (field == secondName) = false := beq_eq_false_iff_ne.mpr apart
    simp [other]
  · have other : (field == firstName) = false := beq_eq_false_iff_ne.mpr named
    simp [other]

private theorem checks_swap (one : Fitting descriptor first ∨ Fitting descriptor second) :
    (before ++ first :: second :: after).forM (checkValue descriptor) =
      (before ++ second :: first :: after).forM (checkValue descriptor) := by
  induction before with
  | nil =>
    simp only [List.nil_append, List.forM]
    rcases one with fits | fits
    · rw [checkValue_ok.mpr fits]
      rfl
    · rw [checkValue_ok.mpr fits]
      rfl
  | cons pair rest ih => simp only [List.cons_append, List.forM, ih]

/-- Two adjacent pairs for different fields may be swapped. If both are wrong it
is the first one that is reported. -/
theorem fill_swap (apart : first.1 ≠ second.1)
    (one : Fitting descriptor first ∨ Fitting descriptor second) :
    fill descriptor (before ++ first :: second :: after) =
      fill descriptor (before ++ second :: first :: after) := by
  simp only [fill, checks_swap one, lastValue_swap apart]

/-- Results that succeed alike are the same up to the error. -/
theorem toOption_congr {ε α : Type} {result other : Except ε α}
    (same : ∀ value, result = .ok value ↔ other = .ok value) :
    result.toOption = other.toOption := by
  cases result with
  | ok value => rw [(same value).mp rfl]
  | error error =>
    cases other with
    | ok value => cases (same value).mpr rfl
    | error => rfl

/-- Requests for a name agree with the pass that ended in the context: on
whether there is a path, on the path, and on which values do not matter. -/
structure RouteAgrees (manifest : Manifest) (context : Context) (name : String) : Prop where
  /-- A request succeeds just when the pass built a descriptor, every pair fits
  it, an overridden one included, and every field is named by some pair. -/
  succeeds : ∀ pairs, (∃ path, route manifest name pairs = .ok path) ↔
    ∃ descriptor, BuiltFor manifest context name descriptor ∧
      (∀ pair ∈ pairs, Fitting descriptor pair) ∧
      ∀ field ∈ descriptor.fields, ∃ pair ∈ pairs, pair.1 = field.name
  /-- The path is that of the descriptor with the last values. -/
  leads : ∀ pairs path descriptor, BuiltFor manifest context name descriptor →
    route manifest name pairs = .ok path → Leads descriptor pairs path
  /-- The order of pairs for different fields does not matter to the path. -/
  swapped : ∀ before first second after, first.1 ≠ second.1 →
    (route manifest name (before ++ first :: second :: after)).toOption =
      (route manifest name (before ++ second :: first :: after)).toOption
  /-- Nor does it to the error, unless both pairs are wrong. -/
  reported : ∀ before first second after, first.1 ≠ second.1 →
    (∀ descriptor, BuiltFor manifest context name descriptor →
      Fitting descriptor first ∨ Fitting descriptor second) →
    route manifest name (before ++ first :: second :: after) =
      route manifest name (before ++ second :: first :: after)

/-- The standard phases lead to a context that requests agree with. -/
theorem settle_agrees (manifest : Manifest) (lints : List Lint) (emitter : Emitter)
    (name : String) : RouteAgrees manifest (settle (.ofManifest manifest) lints emitter) name := by
  constructor
  · intro pairs
    simp only [builtFor_iff]
    constructor
    · rintro ⟨path, reached⟩
      obtain ⟨descriptor, serves, fitting, leads⟩ := route_ok.mp reached
      exact ⟨descriptor, serves, fitting, leads_exists.mp ⟨path, leads⟩⟩
    · rintro ⟨descriptor, serves, fitting, named⟩
      obtain ⟨path, leads⟩ := leads_exists.mpr named
      exact ⟨path, route_ok.mpr ⟨descriptor, serves, fitting, leads⟩⟩
  · intro pairs path descriptor built reached
    obtain ⟨other, serves, -, leads⟩ := route_ok.mp reached
    cases (builtFor_iff.mp built).unique serves
    exact leads
  · intro before first second after apart
    have members (pair : String × String) : pair ∈ before ++ first :: second :: after ↔
        pair ∈ before ++ second :: first :: after := by
      simp only [List.mem_append, List.mem_cons]
      rw [or_left_comm (a := pair = first)]
    refine toOption_congr fun path => ?_
    simp only [route_ok, ← expand_leads, lastValue_swap apart, members]
  · intro before first second after apart one
    rcases route_cases manifest name with ⟨descriptor, serves, filled⟩ | ⟨error, -, fails⟩
    · rw [filled, filled, fill_swap apart (one descriptor (builtFor_iff.mpr serves))]
    · rw [fails, fails]

/-- A pass over any manifest comes to its end, and requests for every name agree
with it, whatever the pass renders and lints. Units are made by `Emitter.emit`,
so each has its descriptor as its source in every language. -/
theorem route_agrees_with_pass {σ : Type} (manifest : Manifest) (emitter : Emitter)
    (lints : List Lint) :
    ∃ context, ({ emitter, lints } : Generator σ).run (.ofManifest manifest) = pure context ∧
      ∀ name, RouteAgrees manifest context name :=
  ⟨_, Generator.run_standard emitter lints (.ofManifest manifest),
    settle_agrees manifest lints emitter⟩

/-- A route without fields, so that no value is for one of them and every value
is wrong. -/
def bareManifest : Manifest where
  declarations := [{ name := "Home", markers := [⟨"Destination", ["home"]⟩] }]

/-- When both pairs are wrong it is the first one that is reported, so a swap
does change what such a request answers. -/
theorem swapped_errors_differ : ¬ ∀ before first second after, first.1 ≠ second.1 →
    route bareManifest "Home" (before ++ first :: second :: after) =
      route bareManifest "Home" (before ++ second :: first :: after) := by
  intro always
  have given : route bareManifest "Home" [("tab", "1"), ("page", "2")] =
      .error (.unknownField "Home" "tab") := by
    decide +kernel
  have swapped : route bareManifest "Home" [("page", "2"), ("tab", "1")] =
      .error (.unknownField "Home" "page") := by
    decide +kernel
  have same : route bareManifest "Home" [("tab", "1"), ("page", "2")] =
      route bareManifest "Home" [("page", "2"), ("tab", "1")] :=
    always [] ("tab", "1") ("page", "2") [] (by decide)
  rw [given, swapped] at same
  have named := (RouteError.unknownField.inj (Except.error.inj same)).2
  exact absurd named (by decide)

end TypedRoutes.RouteAgreement
