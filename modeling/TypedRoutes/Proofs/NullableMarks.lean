import TypedRoutes.Proofs.RefusedDeclarations
import TypedRoutes.Proofs.RouteAgreement
import TypedRoutes.Proofs.UnseenEdits

/-! Nullable marks on declared types. A mark says that a value may be missing,
and a path cannot do without one. So the mark is set aside wherever a type is
looked at: what a pass makes of a manifest, and what a request for a path is
answered, stays the same when types get marks that have none. -/
namespace TypedRoutes.NullableMarks
open Command Pipeline Route Kotlin Manifest PassExecution PassOutcome RefusedDeclarations
  RouteAgreement UnseenEdits

/-! ## Marking types -/

/-- A property stays as it is, or its type, which shows and has no mark, gets
one. -/
inductive Marked : Manifest.Property → Manifest.Property → Prop where
  | same (property : Manifest.Property) : Marked property property
  | nullable {property : Manifest.Property} {type : String} (typed : property.type = some type)
      (resolved : property.isResolved = true) (unmarked : type.toList.getLast? ≠ some '?') :
      Marked property { property with type := some (type ++ "?") }

/-- Any properties of a declaration get marks, and nothing else of it
changes. -/
inductive DeclarationMarked : Declaration → Declaration → Prop where
  | properties {declaration : Declaration} {properties : List Manifest.Property}
      (each : List.Forall₂ Marked declaration.properties properties) :
      DeclarationMarked declaration { declaration with properties }

/-- Any properties of any declarations get marks. The settings stay as they
are. -/
inductive ManifestMarked : Manifest → Manifest → Prop where
  | declarations {manifest : Manifest} {declarations : List Declaration}
      (each : List.Forall₂ DeclarationMarked manifest.declarations declarations) :
      ManifestMarked manifest { manifest with declarations }

/-- Passes that come out the same but for notes. Notes quote types as they are
declared, so these show the marks. -/
structure SameOutput (context other : Context) : Prop where
  units : context.units = other.units
  invalid : context.invalid = other.invalid
  rejected : context.rejected = other.rejected
  retry : context.retry = other.retry
  warnings : context.ofSeverity .warning = other.ofSeverity .warning

/-! ## Fields and descriptors -/

/-- Fields that differ in the marks of their types, and in nothing that code is
made of. -/
structure SameField (field other : Field) : Prop where
  name : field.name = other.name
  type : nonNullType field.declaredType = nonNullType other.declaredType
  kind : field.kind = other.kind
  encode : field.encode = other.encode

private theorem SameField.refl (field : Field) : SameField field field :=
  ⟨rfl, rfl, rfl, rfl⟩

/-- Descriptors that differ in the marks of their fields. -/
structure SameDescriptor (descriptor other : Descriptor) : Prop where
  routeName : descriptor.routeName = other.routeName
  source : descriptor.source = other.source
  fields : List.Forall₂ SameField descriptor.fields other.fields

/-- Results that are alike: the same error, or values that are. -/
inductive Agree {ε α β : Type} (alike : α → β → Prop) : Except ε α → Except ε β → Prop where
  | error (error : ε) : Agree alike (.error error) (.error error)
  | ok {value : α} {other : β} (same : alike value other) : Agree alike (.ok value) (.ok other)

section Results
variable {ε α β γ δ : Type} {alike : α → β → Prop} {after : γ → δ → Prop}

private theorem Agree.bind {result : Except ε α} {other : Except ε β} {next : α → Except ε γ}
    {otherNext : β → Except ε δ} (agree : Agree alike result other)
    (each : ∀ a b, alike a b → Agree after (next a) (otherNext b)) :
    Agree after (result >>= next) (other >>= otherNext) := by
  cases agree with
  | error error => exact .error error
  | ok same => exact each _ _ same

private theorem mapM_agree {inputs : List α} {others : List β} {action : α → Except ε γ}
    {otherAction : β → Except ε δ} (each : List.Forall₂ alike inputs others)
    (same : ∀ a b, alike a b → Agree after (action a) (otherAction b)) :
    Agree (List.Forall₂ after) (inputs.mapM action) (others.mapM otherAction) := by
  induction each with
  | nil => exact .ok .nil
  | cons pair _ ih =>
    rw [List.mapM_cons, List.mapM_cons]
    exact (same _ _ pair).bind fun _ _ first => ih.bind fun _ _ rest => .ok (.cons first rest)

end Results

section Declarations
variable {property other : Manifest.Property} {declaration marked : Declaration}
  {settings : Settings}

/-- A marked type is read back as before, since the mark is cut off first. -/
theorem marked_kind {type : String} (unmarked : type.toList.getLast? ≠ some '?') :
    primitiveOf? (type ++ "?") = primitiveOf? type := by
  simp only [primitiveOf?, simpleTypeName, nonNullType_marked, nonNullType_unmarked unmarked]

private theorem Marked.field (edit : Marked property other) (id : DeclarationId)
    (encodeMarker : String) :
    Agree SameField (Field.ofProperty id encodeMarker property)
      (Field.ofProperty id encodeMarker other) := by
  cases edit with
  | same =>
    cases Field.ofProperty id encodeMarker property with
    | error error => exact .error error
    | ok field => exact .ok (.refl field)
  | @nullable type typed resolved unmarked =>
    simp only [Field.ofProperty, typed, marked_kind unmarked]
    refine .ok { name := rfl, type := ?_, kind := rfl, encode := rfl }
    rw [nonNullType_marked, nonNullType_unmarked unmarked]

private theorem Marked.isStored_eq (edit : Marked property other) :
    property.isStored = other.isStored := by
  cases edit <;> rfl

private theorem Marked.isResolved_eq (edit : Marked property other) :
    property.isResolved = other.isResolved := by
  cases edit with
  | same => rfl
  | @nullable type typed resolved unmarked =>
    have shown : Text.isBlank "?" = false := by decide
    rw [resolved]
    simp [Property.isResolved, Text.isBlank_append, shown]

private theorem DeclarationMarked.marker_eq (edit : DeclarationMarked declaration marked)
    (short : String) : declaration.marker? short = marked.marker? short := by
  obtain ⟨each⟩ := edit
  rfl

private theorem DeclarationMarked.id_eq (edit : DeclarationMarked declaration marked) :
    declaration.id = marked.id := by
  obtain ⟨each⟩ := edit
  rfl

private theorem DeclarationMarked.file_eq (edit : DeclarationMarked declaration marked) :
    declaration.file = marked.file := by
  obtain ⟨each⟩ := edit
  rfl

private theorem DeclarationMarked.stored (edit : DeclarationMarked declaration marked) :
    List.Forall₂ Marked declaration.storedProperties marked.storedProperties := by
  obtain ⟨each⟩ := edit
  exact List.rel_filter (fun _ _ edit => iff_of_eq (congrArg (· = true) edit.isStored_eq)) each

private theorem DeclarationMarked.isResolved_eq (edit : DeclarationMarked declaration marked)
    (short : String) : declaration.isResolved short = marked.isResolved short := by
  have typed : declaration.properties.map (·.isResolved) =
      marked.properties.map (·.isResolved) := by
    obtain ⟨each⟩ := edit
    exact views_eq (fun _ _ edit => Marked.isResolved_eq edit) each
  have all := congrArg (List.all · id) typed
  simp only [List.all_map, Function.id_comp] at all
  simp only [Declaration.isResolved, edit.marker_eq, all]

/-- A declaration has alike descriptors, or none for the same reason. -/
theorem DeclarationMarked.descriptor (edit : DeclarationMarked declaration marked)
    (settings : Settings) : Agree SameDescriptor (Descriptor.ofDeclaration settings declaration)
      (Descriptor.ofDeclaration settings marked) := by
  unfold Descriptor.ofDeclaration
  rw [edit.marker_eq, edit.id_eq]
  cases marked.marker? settings.routeMarker with
  | none => exact .error _
  | some marker =>
    dsimp only
    cases marker.args.head? with
    | none => exact .error _
    | some routeName =>
      by_cases blank : Text.isBlank routeName = true
      · simp only [if_pos blank]
        exact .error _
      · simp only [if_neg blank]
        have fields := mapM_agree edit.stored fun _ _ edit =>
          Marked.field edit marked.id settings.encodeMarker
        exact fields.bind fun first second fields => Agree.ok ⟨rfl, rfl, fields⟩

end Declarations

/-! ## Views of descriptors -/

section Views
variable {descriptor other : Descriptor} {descriptors others : List Descriptor}

private theorem SameDescriptor.template_eq (same : SameDescriptor descriptor other) :
    Template.ofDescriptor descriptor = Template.ofDescriptor other := by
  have slots : descriptor.fields.map (fun field => (⟨field.name, field.encode⟩ : Slot)) =
      other.fields.map fun field => ⟨field.name, field.encode⟩ :=
    views_eq (fun _ _ field => by rw [field.name, field.encode]) same.fields
  rw [Template.ofDescriptor, Template.ofDescriptor, same.routeName, slots]

/-- The code of a unit takes the non-null forms of types, so it is the same to
the last character. -/
theorem SameDescriptor.routeFile_eq (same : SameDescriptor descriptor other)
    (container : Container) : routeFile container descriptor = routeFile container other := by
  have params : (descriptor.fields.map fun field =>
      (⟨field.name, nonNullType field.declaredType⟩ : Param)) =
        other.fields.map fun field => ⟨field.name, nonNullType field.declaredType⟩ :=
    views_eq (fun _ _ field => by rw [field.name, field.type]) same.fields
  have constants : descriptor.fields.map keyConstant = other.fields.map keyConstant :=
    views_eq (fun _ _ field => by rw [keyConstant, keyConstant, field.name]) same.fields
  have extractors : descriptor.fields.map (extractor? container) =
      other.fields.map (extractor? container) :=
    views_eq (fun _ _ field => by simp only [extractor?, field.name, field.kind]) same.fields
  have extracted := congrArg (List.filterMap id) extractors
  simp only [List.filterMap_map, Function.id_comp] at extracted
  have readable : descriptor.extractable.isEmpty = other.extractable.isEmpty := by
    have kinds : descriptor.fields.map (·.kind) = other.fields.map (·.kind) :=
      views_eq (fun _ _ field => field.kind) same.fields
    have none := congrArg (fun kinds => (kinds.filter Option.isSome).isEmpty) kinds
    simp only [List.filter_map, List.isEmpty_map] at none
    exact none
  simp only [routeFile, routeObject, Descriptor.unitName, routeFunction, same.source, params,
    constants, extracted, readable, same.template_eq]

private theorem SameDescriptor.emit_eq (same : SameDescriptor descriptor other)
    (container : Container) :
    (emitter container).emit descriptor = (emitter container).emit other := by
  simp only [Emitter.emit, emitter, Descriptor.unitName, same.source, same.routeFile_eq]

private theorem collisions_same {fields marked : List Field}
    (each : List.Forall₂ SameField fields marked)
    (source : DeclarationId) (taken : List (String × String)) :
    collisions source taken fields = collisions source taken marked := by
  induction each generalizing taken with
  | nil => rfl
  | cons field _ ih =>
    simp only [collisions, constantTaken, constantName, fieldLocation, field.name, ih]

private theorem SameDescriptor.collisions_eq (same : SameDescriptor descriptor other) :
    collisions descriptor.source [] descriptor.fields =
      collisions other.source [] other.fields := by
  rw [collisions_same same.fields, same.source]

private theorem routeUsers_same (each : List.Forall₂ SameDescriptor descriptors others) :
    routeUsers descriptors = routeUsers others := by
  have uses : descriptors.map (fun descriptor => (descriptor.routeName, descriptor.source)) =
      others.map fun descriptor => (descriptor.routeName, descriptor.source) :=
    views_eq (fun _ _ same => by rw [same.routeName, same.source]) each
  have loop := congrArg (List.foldl (fun groups (use : String × DeclarationId) =>
    addUser use.1 use.2 groups) []) uses
  rwa [List.foldl_map, List.foldl_map] at loop

/-- The standard lints warn of the same. Only their notes show types. -/
theorem warnings_same (each : List.Forall₂ SameDescriptor descriptors others) :
    (standardLints.flatMap (·.check descriptors)).filter (·.severity == .warning) =
      (standardLints.flatMap (·.check others)).filter (·.severity == .warning) := by
  have notes (descriptors : List Descriptor) :
      (unsupportedFieldType.check descriptors).filter (·.severity == .warning) = [] := by
    rw [List.filter_eq_nil_iff]
    intro diagnostic member
    obtain ⟨descriptor, -, member⟩ := List.mem_flatMap.mp member
    obtain ⟨field, -, rfl⟩ := List.mem_map.mp member
    simp [unsupportedField]
  have constants : constantCollision.check descriptors = constantCollision.check others := by
    have lists := views_eq (fun _ _ same => SameDescriptor.collisions_eq same) each
    simp only [constantCollision, List.flatMap_def, lists]
  have routes : duplicateRoute.check descriptors = duplicateRoute.check others :=
    congrArg (List.flatMap reuses) (routeUsers_same each)
  simp only [standardLints, List.flatMap_cons, List.flatMap_nil, List.filter_append, notes,
    constants, routes]

end Views

/-! ## Passes -/

section Warnings
variable {host : Host} {context : Context}

private theorem report_warnings {diagnostic : Diagnostic} (other : diagnostic.severity ≠ .warning) :
    (context.report diagnostic).ofSeverity .warning = context.ofSeverity .warning := by
  simp [Context.report, Context.ofSeverity, other]

private theorem told_unwarned (settings : Settings) (declaration : Declaration) :
    (told host settings declaration).filter (·.severity == .warning) = [] := by
  unfold told
  cases verdict host settings declaration with
  | waiting => rfl
  | refused error => rfl
  | described descriptor => rfl

variable (host) in
/-- All warnings of a pass are those of its lints. -/
theorem settle_warnings (lints : List Lint) (emitter : Emitter) :
    (settle host lints emitter).ofSeverity .warning =
      (lints.flatMap (·.check (described host host.settings
        (host.marked host.settings.routeMarker)))).filter (·.severity == .warning) := by
  let found := (Context.initial host).discover host
  have start : found.ofSeverity .warning = [] := rfl
  have built : (found.build host).ofSeverity .warning = [] := by
    have loop := @build_loop_tells host found.discovered found
    rw [Context.ofSeverity, Context.build, loop, List.filter_append, List.filter_flatMap]
    simp only [told_unwarned]
    rw [← Context.ofSeverity, start, List.nil_append, List.flatMap_eq_nil_iff]
    exact fun _ _ => rfl
  have descriptors : (found.build host).descriptors =
      described host host.settings (host.marked host.settings.routeMarker) := build_reaches _
  have linted : (((found.build host).validate lints).emit emitter).ofSeverity .warning =
      (lints.flatMap (·.check (found.build host).descriptors)).filter (·.severity == .warning) := by
    rw [Context.ofSeverity] at built
    simp only [Context.validate, Context.emit, Context.ofSeverity, List.filter_append, built,
      List.nil_append]
  rw [← descriptors, ← linted, settle]
  simp only [Context.classify]
  split
  · rfl
  · exact report_warnings (by simp)

end Warnings

section Manifests
variable {manifest other : Manifest}

private theorem ManifestMarked.settings_eq (edit : ManifestMarked manifest other) :
    manifest.settings = other.settings := by
  obtain ⟨each⟩ := edit
  rfl

private theorem ManifestMarked.each (edit : ManifestMarked manifest other) :
    List.Forall₂ DeclarationMarked manifest.declarations other.declarations := by
  obtain ⟨each⟩ := edit
  exact each

private theorem ManifestMarked.marked (edit : ManifestMarked manifest other) (short : String) :
    List.Forall₂ DeclarationMarked (manifest.marked short) (other.marked short) := by
  refine List.rel_filter ?_ edit.each
  intro declaration marked same
  simp only [same.marker_eq]

private theorem ManifestMarked.sourceFiles_eq (edit : ManifestMarked manifest other) :
    manifest.sourceFiles = other.sourceFiles :=
  sourceFiles_congr (views_eq (fun _ _ same => DeclarationMarked.file_eq same) edit.each)

private theorem ManifestMarked.valid_eq (edit : ManifestMarked manifest other)
    {declaration marked : Declaration} (same : DeclarationMarked declaration marked) :
    (Host.ofManifest manifest).isValid declaration = (Host.ofManifest other).isValid marked := by
  simp only [Host.ofManifest, ← edit.settings_eq, same.isResolved_eq]

/-- Verdicts that differ in the marks of a descriptor at most. -/
inductive SameVerdict : Verdict → Verdict → Prop where
  | waiting : SameVerdict .waiting .waiting
  | refused (error : BuildError) : SameVerdict (.refused error) (.refused error)
  | described {descriptor other : Descriptor} (same : SameDescriptor descriptor other) :
      SameVerdict (.described descriptor) (.described other)

private theorem SameVerdict.descriptor {first second : Verdict} (same : SameVerdict first second) :
    Option.Rel SameDescriptor first.descriptor? second.descriptor? := by
  cases same with
  | waiting => exact .none
  | refused error => exact .none
  | described same => exact .some same

private theorem ManifestMarked.sameVerdict (edit : ManifestMarked manifest other)
    (settings : Settings)
    {declaration marked : Declaration} (same : DeclarationMarked declaration marked) :
    SameVerdict (verdict (.ofManifest manifest) settings declaration)
      (verdict (.ofManifest other) settings marked) := by
  have agree := same.descriptor settings
  unfold verdict
  rw [← edit.valid_eq same]
  generalize Descriptor.ofDeclaration settings declaration = result,
    Descriptor.ofDeclaration settings marked = answer at agree ⊢
  split
  · cases agree with
    | error error => exact .refused error
    | ok same => exact .described same
  · exact .waiting

variable {declarations marked : List Declaration} {settings : Settings}

/-- A choice by verdicts that does not look at descriptors chooses the same
declarations. -/
theorem ManifestMarked.chosen_eq (edit : ManifestMarked manifest other)
    (each : List.Forall₂ DeclarationMarked declarations marked) {choose : Verdict → Bool}
    (blind : ∀ first second, SameVerdict first second → choose first = choose second) :
    (declarations.filter fun declaration =>
        choose (verdict (.ofManifest manifest) settings declaration)).map (·.id) =
      (marked.filter fun declaration =>
        choose (verdict (.ofManifest other) settings declaration)).map (·.id) := by
  refine views_eq (fun _ _ same => DeclarationMarked.id_eq same) (List.rel_filter ?_ each)
  intro declaration marked same
  simp only [blind _ _ (edit.sameVerdict settings same)]

private theorem ManifestMarked.waiting_eq (edit : ManifestMarked manifest other)
    (each : List.Forall₂ DeclarationMarked declarations marked) :
    waiting (.ofManifest manifest) settings declarations =
      waiting (.ofManifest other) settings marked :=
  edit.chosen_eq each fun _ _ same => by cases same <;> rfl

private theorem ManifestMarked.refused_eq (edit : ManifestMarked manifest other)
    (each : List.Forall₂ DeclarationMarked declarations marked) :
    refused (.ofManifest manifest) settings declarations =
      refused (.ofManifest other) settings marked :=
  edit.chosen_eq each fun _ _ same => by cases same <;> rfl

private theorem ManifestMarked.descriptors (edit : ManifestMarked manifest other)
    (each : List.Forall₂ DeclarationMarked declarations marked) :
    List.Forall₂ SameDescriptor (described (.ofManifest manifest) settings declarations)
      (described (.ofManifest other) settings marked) := by
  refine List.rel_filterMap ?_ each
  intro declaration marked same
  exact (edit.sameVerdict settings same).descriptor

private theorem ManifestMarked.units_eq (edit : ManifestMarked manifest other)
    (each : List.Forall₂ DeclarationMarked declarations marked) (container : Container) :
    ((described (.ofManifest manifest) settings declarations).map fun descriptor =>
        { (emitter container).emit descriptor with
          dependencies := Dependencies.all manifest.sourceFiles }) =
      (described (.ofManifest other) settings marked).map fun descriptor =>
        { (emitter container).emit descriptor with
          dependencies := .all other.sourceFiles } := by
  refine views_eq (fun _ _ same => ?_) (edit.descriptors each)
  rw [SameDescriptor.emit_eq same, edit.sourceFiles_eq]

private theorem ManifestMarked.retry_eq (edit : ManifestMarked manifest other)
    (each : List.Forall₂ DeclarationMarked declarations marked) (rejected : List DeclarationId) :
    (declarations.filter fun declaration => !(Host.ofManifest manifest).isValid declaration ||
        rejected.contains declaration.id).map (·.id) =
      (marked.filter fun declaration => !(Host.ofManifest other).isValid declaration ||
        rejected.contains declaration.id).map (·.id) := by
  refine views_eq (fun _ _ same => DeclarationMarked.id_eq same) (List.rel_filter ?_ each)
  intro declaration marked same
  simp only [edit.valid_eq same, same.id_eq]

private theorem ManifestMarked.outcome_retry (edit : ManifestMarked manifest other)
    (settings : Settings)
    (language : Emitter) (marker : String) :
    (outcome (.ofManifest manifest) settings language marker).retry =
      (outcome (.ofManifest other) settings language marker).retry := by
  have each := edit.marked marker
  have refused : refused (.ofManifest manifest) settings (manifest.marked marker) =
    refused (.ofManifest other) settings (other.marked marker) := edit.refused_eq each
  have retried := edit.retry_eq each
    (PassOutcome.refused (.ofManifest manifest) settings (manifest.marked marker))
  refine retried.trans ?_
  rw [refused]
  rfl

/-- Passes over a manifest and over the marked one come out the same. -/
theorem ManifestMarked.output (edit : ManifestMarked manifest other) (container : Container) :
    SameOutput (settle (.ofManifest manifest) standardLints (emitter container))
      (settle (.ofManifest other) standardLints (emitter container)) := by
  have each := edit.marked manifest.settings.routeMarker
  have files : filed (settle (.ofManifest manifest) standardLints (emitter container)) =
    outcome (.ofManifest manifest) manifest.settings (emitter container) _ := settle_files _ _
  have markedFiles : filed (settle (.ofManifest other) standardLints (emitter container)) =
      outcome (.ofManifest other) manifest.settings (emitter container)
        manifest.settings.routeMarker := by
    rw [edit.settings_eq]
    exact settle_files _ _
  constructor
  · exact (congrArg Context.units files).trans
      ((edit.units_eq each container).trans (congrArg Context.units markedFiles).symm)
  · exact (congrArg Context.invalid files).trans
      ((edit.waiting_eq each).trans (congrArg Context.invalid markedFiles).symm)
  · exact (congrArg Context.rejected files).trans
      ((edit.refused_eq each).trans (congrArg Context.rejected markedFiles).symm)
  · exact (congrArg Context.retry files).trans
      ((edit.outcome_retry _ _ _).trans (congrArg Context.retry markedFiles).symm)
  · have described : List.Forall₂ SameDescriptor
        (described (.ofManifest manifest) manifest.settings
          (manifest.marked manifest.settings.routeMarker))
        (described (.ofManifest other) other.settings
          (other.marked other.settings.routeMarker)) := by
      rw [← edit.settings_eq]
      exact edit.descriptors each
    rw [settle_warnings, settle_warnings]
    exact warnings_same described

/-! ## Requests -/

section Requests
variable {descriptor otherDescriptor : Descriptor} {pairs : List (String × String)}

private theorem SameDescriptor.checkValue_ok (same : SameDescriptor descriptor otherDescriptor)
    (pair : String × String) :
    checkValue descriptor pair = .ok () ↔ checkValue otherDescriptor pair = .ok () := by
  have found : Option.Rel SameField (descriptor.fields.find? (·.name == pair.1))
      (otherDescriptor.fields.find? (·.name == pair.1)) :=
    find_alike (fun _ _ field => by rw [field.name]) same.fields
  unfold checkValue
  generalize descriptor.fields.find? _ = first, otherDescriptor.fields.find? _ = second at found ⊢
  cases found with
  | none => simp
  | some field =>
    simp only [field.kind]
    split <;> simp

private theorem SameDescriptor.fill_eq (same : SameDescriptor descriptor otherDescriptor) :
    (fill descriptor pairs).toOption = (fill otherDescriptor pairs).toOption := by
  have checks : pairs.forM (checkValue descriptor) = .ok () ↔
      pairs.forM (checkValue otherDescriptor) = .ok () := by
    simp only [checks_ok_iff, ← RouteAgreement.checkValue_ok, same.checkValue_ok]
  -- A message may show the declared type, mark and all, so only success is compared.
  refine toOption_congr fun path => ?_
  unfold fill
  simp only [SoundManifests.except_bind_ok, same.template_eq]
  exact exists_congr fun _ => and_congr_left' checks

private theorem ManifestMarked.found (edit : ManifestMarked manifest other) (name : String) :
    Option.Rel DeclarationMarked (manifest.find? name) (other.find? name) := by
  refine find_alike (fun declaration marked same => ?_) edit.each
  obtain ⟨each⟩ := same
  rfl

/-- A request succeeds with the same path, or fails in both manifests. The error
may quote the type, so it can differ. -/
theorem ManifestMarked.route_eq (edit : ManifestMarked manifest other) (name : String)
    (pairs : List (String × String)) :
    (route manifest name pairs).toOption = (route other name pairs).toOption := by
  have found := edit.found name
  unfold route
  generalize manifest.find? name = first, other.find? name = second at found ⊢
  cases found with
  | none => rfl
  | @some declaration marked same =>
    simp only [edit.valid_eq same, ← edit.settings_eq]
    split
    · rfl
    · have agree := same.descriptor manifest.settings
      generalize Descriptor.ofDeclaration manifest.settings declaration = result,
        Descriptor.ofDeclaration manifest.settings marked = answer at agree ⊢
      cases agree with
      | error error => rfl
      | ok same => exact same.fill_eq

end Requests

/-- A pass in Kotlin over a manifest comes out as before when any of its types
get marks, but for the notes, and a request succeeds as before. -/
theorem marks_unseen {σ : Type} (edit : ManifestMarked manifest other) :
    ∃ context marked,
      (kotlinGenerator manifest [] : Generator σ).run (.ofManifest manifest) = pure context ∧
      (kotlinGenerator other [] : Generator σ).run (.ofManifest other) = pure marked ∧
      SameOutput context marked ∧
      ∀ name values,
        (route manifest name values).toOption = (route other name values).toOption := by
  refine ⟨_, _, Generator.run_standard _ standardLints (.ofManifest manifest),
    Generator.run_standard _ standardLints (.ofManifest other), ?_, edit.route_eq⟩
  rw [← edit.settings_eq]
  exact edit.output _

end Manifests

/-- Routes with types of many spellings, qualified and generic ones among
them. -/
def bareManifest : Manifest where
  declarations := [{
      name := "Search"
      markers := [⟨"Destination", ["search"]⟩]
      properties := [
        { name := "query", type := some "kotlin.String", markers := [⟨"EncodeUrl", []⟩] },
        { name := "QUERY", type := some "List<Int?>" },
        { name := "page", type := some "Int" },
        { name := "base", type := some "Any", inherited := true }] },
    { name := "Again", markers := [⟨"Destination", ["search"]⟩] },
    { name := "Waiting"
      markers := [⟨"Destination", ["waiting"]⟩]
      properties := [{ name := "hidden", type := some " " }] }]

/-- The same where all types that show are nullable but one. -/
def nullableManifest : Manifest where
  declarations := [{
      name := "Search"
      markers := [⟨"Destination", ["search"]⟩]
      properties := [
        { name := "query", type := some "kotlin.String?", markers := [⟨"EncodeUrl", []⟩] },
        { name := "QUERY", type := some "List<Int?>?" },
        { name := "page", type := some "Int" },
        { name := "base", type := some "Any?", inherited := true }] },
    { name := "Again", markers := [⟨"Destination", ["search"]⟩] },
    { name := "Waiting"
      markers := [⟨"Destination", ["waiting"]⟩]
      properties := [{ name := "hidden", type := some " " }] }]

private theorem bare_marked : ManifestMarked bareManifest nullableManifest := by
  refine .declarations (.cons (.properties (.cons (@Marked.nullable _ "kotlin.String" rfl ?_ ?_)
    (.cons (@Marked.nullable _ "List<Int?>" rfl ?_ ?_) (.cons (.same _)
      (.cons (@Marked.nullable _ "Any" rfl ?_ ?_) .nil)))))
    (.cons (.properties .nil) (.cons (.properties (.cons (.same _) .nil)) .nil)))
  all_goals decide

theorem marks_unseen_search : ManifestMarked bareManifest nullableManifest ∧
    ∃ context marked,
      (kotlinGenerator bareManifest [] : Generator Unit).run (.ofManifest bareManifest) =
        pure context ∧
      (kotlinGenerator nullableManifest [] : Generator Unit).run (.ofManifest nullableManifest) =
        pure marked ∧
      context.units.map (·.name) = ["SearchDestination", "AgainDestination"] ∧
      (context.ofSeverity .warning).length = 2 ∧ SameOutput context marked ∧
      (route nullableManifest "Search" [("query", "a b"), ("QUERY", "x"), ("page", "1")]).toOption =
        some "search/a+b/x/1" := by
  obtain ⟨context, marked, ran, markedRan, same, routes⟩ := marks_unseen (σ := Unit) bare_marked
  have settled := (Generator.run_standard _ standardLints (.ofManifest bareManifest)).symm.trans ran
  cases congrArg (fun action => (ExceptT.run action).run ()) settled
  exact ⟨bare_marked, _, marked, ran, markedRan, by decide +kernel, by decide +kernel, same,
    (routes _ _).symm.trans (by decide +kernel)⟩

end TypedRoutes.NullableMarks
