import Mathlib.Data.List.Forall2
import Mathlib.Logic.Relation
import TypedRoutes.Command.Generate
import TypedRoutes.Command.Route
import TypedRoutes.Route.Build

/-! Edits that nobody sees. Markers are known by their short names, markers of
other names mean nothing, and a property that is not stored only has to be
resolved. So a manifest may be edited in these respects, any number of times,
and neither a pass nor a request for a path comes out differently. -/
namespace TypedRoutes.UnseenEdits
open Command Pipeline Route

variable {α β : Type}

/-! ## Edits -/

/-- One element of a list is edited, and all others stay where they are. -/
inductive Replaced (edit : α → α → Prop) : List α → List α → Prop where
  | at (before after : List α) {element edited : α} (change : edit element edited) :
      Replaced edit (before ++ element :: after) (before ++ edited :: after)

/-- An element of some kind is put into a list or taken out of it, at any
place. -/
inductive Adjusted (kind : α → Prop) : List α → List α → Prop where
  | inserted (before after : List α) (element : α) (extra : kind element) :
      Adjusted kind (before ++ after) (before ++ element :: after)
  | removed (before after : List α) (element : α) (extra : kind element) :
      Adjusted kind (before ++ element :: after) (before ++ after)

/-- A qualifier is put in front of the name of a marker. It may have dots of its
own, or be empty. -/
inductive Qualified : Manifest.Marker → Manifest.Marker → Prop where
  | by (qualifier : String) (marker : Manifest.Marker) :
      Qualified marker { marker with name := qualifier ++ "." ++ marker.name }

/-- Edits of markers where only those of one short name are looked for. -/
inductive MarkersEdited (short : String) :
    List Manifest.Marker → List Manifest.Marker → Prop where
  | qualified {markers edited : List Manifest.Marker} (edit : Replaced Qualified markers edited) :
      MarkersEdited short markers edited
  | others {markers edited : List Manifest.Marker}
      (edit : Adjusted (fun marker => marker.shortName ≠ short) markers edited) :
      MarkersEdited short markers edited

/-- A property that is inherited or an extension, with a type that shows.
Nothing is generated for it. -/
structure Idle (property : Manifest.Property) : Prop where
  elsewhere : property.inherited = true ∨ property.extension.isSome = true
  resolved : property.isResolved = true

/-- Edits of a property where only the marker for encoding is looked for. -/
inductive PropertyEdited (settings : Manifest.Settings) :
    Manifest.Property → Manifest.Property → Prop where
  | markers {property : Manifest.Property} {markers : List Manifest.Marker}
      (edit : MarkersEdited settings.encodeMarker property.markers markers) :
      PropertyEdited settings property { property with markers }

/-- Edits of a declaration: of its markers, of a property, or of which idle
properties it has. -/
inductive DeclarationEdited (settings : Manifest.Settings) :
    Manifest.Declaration → Manifest.Declaration → Prop where
  | markers {declaration : Manifest.Declaration} {markers : List Manifest.Marker}
      (edit : MarkersEdited settings.routeMarker declaration.markers markers) :
      DeclarationEdited settings declaration { declaration with markers }
  | property {declaration : Manifest.Declaration} {properties : List Manifest.Property}
      (edit : Replaced (PropertyEdited settings) declaration.properties properties) :
      DeclarationEdited settings declaration { declaration with properties }
  | properties {declaration : Manifest.Declaration} {properties : List Manifest.Property}
      (edit : Adjusted Idle declaration.properties properties) :
      DeclarationEdited settings declaration { declaration with properties }

/-- One edit of one declaration. The settings stay as they are. -/
inductive Edited : Manifest → Manifest → Prop where
  | declaration {manifest : Manifest} {declarations : List Manifest.Declaration}
      (edit : Replaced (DeclarationEdited manifest.settings) manifest.declarations declarations) :
      Edited manifest { manifest with declarations }

/-! ## What edits leave as it is -/

section Lists
variable {edit : α → α → Prop} {kind : α → Prop} {elements edited : List α}

private theorem Replaced.forall₂ (replaced : Replaced edit elements edited)
    {relation : α → α → Prop}
    (same : ∀ element, relation element element)
    (changed : ∀ element other, edit element other → relation element other) :
    List.Forall₂ relation elements edited := by
  obtain ⟨before, after, change⟩ := replaced
  have kept (others : List α) : List.Forall₂ relation others others :=
    List.forall₂_same.mpr fun element _ => same element
  exact List.rel_append (kept before) (.cons (changed _ _ change) (kept after))

/-- A selection does not show an edit that it looks past. -/
theorem Replaced.selected_eq (replaced : Replaced edit elements edited) {select : α → Bool}
    {view : α → β} (selected : ∀ element other, edit element other → select element = select other)
    (same : ∀ element other, edit element other → view element = view other) :
    (elements.filter select).map view = (edited.filter select).map view := by
  obtain ⟨before, after, change⟩ := replaced
  simp only [List.filter_append, List.filter_cons, selected _ _ change, List.map_append]
  split
  · simp only [List.map_cons, same _ _ change]
  · rfl

private theorem Replaced.all_eq (replaced : Replaced edit elements edited) {test : α → Bool}
    (same : ∀ element other, edit element other → test element = test other) :
    elements.all test = edited.all test := by
  obtain ⟨before, after, change⟩ := replaced
  simp only [List.all_append, List.all_cons, same _ _ change]

/-- Nor does it show elements that it leaves out. -/
theorem Adjusted.selected_eq (adjusted : Adjusted kind elements edited) {select : α → Bool}
    (hidden : ∀ element, kind element → select element = false) :
    elements.filter select = edited.filter select := by
  rcases adjusted with ⟨before, after, element, extra⟩ | ⟨before, after, element, extra⟩
  · simp only [List.filter_append, List.filter_cons, hidden _ extra, Bool.false_eq_true, ↓reduceIte]
  · simp only [List.filter_append, List.filter_cons, hidden _ extra, Bool.false_eq_true, ↓reduceIte]

private theorem Adjusted.all_eq (adjusted : Adjusted kind elements edited) {test : α → Bool}
    (passing : ∀ element, kind element → test element = true) :
    elements.all test = edited.all test := by
  rcases adjusted with ⟨before, after, element, extra⟩ | ⟨before, after, element, extra⟩
  · simp only [List.all_append, List.all_cons, passing _ extra, Bool.true_and]
  · simp only [List.all_append, List.all_cons, passing _ extra, Bool.true_and]

end Lists

/-! ## Lists that are alike one by one -/

section Alike
variable {γ : Type} {alike : α → β → Prop} {first : List α} {second : List β}

/-- What is looked at is the same all along the lists. -/
theorem views_eq {view : α → γ} {other : β → γ} (same : ∀ a b, alike a b → view a = other b)
    (each : List.Forall₂ alike first second) : first.map view = second.map other := by
  induction each with
  | nil => rfl
  | cons pair _ ih => rw [List.map_cons, List.map_cons, same _ _ pair, ih]

/-- A test that does not tell them apart finds what is alike, or nothing in
either list. -/
theorem find_alike {test : α → Bool} {other : β → Bool}
    (same : ∀ a b, alike a b → test a = other b) (each : List.Forall₂ alike first second) :
    Option.Rel alike (first.find? test) (second.find? other) := by
  induction each with
  | nil => exact .none
  | cons pair _ ih =>
    rw [List.find?_cons, List.find?_cons, same _ _ pair]
    split
    · exact .some pair
    · exact ih

end Alike

private theorem shortName_qualify (qualifier name : String) :
    Text.shortName (qualifier ++ "." ++ name) = Text.shortName name := by
  have spelled : (qualifier ++ "." ++ name).toList = qualifier.toList ++ '.' :: name.toList := by
    simp
  rw [Text.shortName, Text.shortName, spelled, Text.afterLast_append_cons,
    Text.afterLast_cons_self]

section Markers
variable {short : String} {markers edited : List Manifest.Marker}

/-- The markers of the short name have the arguments they had. -/
theorem MarkersEdited.args_eq (edit : MarkersEdited short markers edited) :
    (markers.find? (·.shortName == short)).map (·.args) =
      (edited.find? (·.shortName == short)).map (·.args) := by
  have all : (markers.filter (·.shortName == short)).map (·.args) =
      (edited.filter (·.shortName == short)).map (·.args) := by
    rcases edit with replaced | adjusted
    · refine replaced.selected_eq ?_ ?_
      · rintro _ _ ⟨qualifier, marker⟩
        simp only [Manifest.Marker.shortName, shortName_qualify]
      · rintro _ _ ⟨qualifier, marker⟩
        rfl
    · rw [adjusted.selected_eq fun marker other => beq_eq_false_iff_ne.mpr other]
  rw [← List.head?_filter, ← List.head?_filter, ← List.head?_map, ← List.head?_map, all]

private theorem MarkersEdited.any_eq (edit : MarkersEdited short markers edited) :
    markers.any (·.shortName == short) = edited.any (·.shortName == short) := by
  have same := congrArg Option.isSome edit.args_eq
  simpa only [Option.isSome_map, List.isSome_find?] using same

end Markers

variable {settings : Manifest.Settings}

/-- Declarations that a generator under the settings cannot tell apart. These
are all the ways in which it looks at one. -/
structure Alike (settings : Manifest.Settings) (declaration other : Manifest.Declaration) :
    Prop where
  id : declaration.id = other.id
  file : declaration.file = other.file
  args : (declaration.marker? settings.routeMarker).map (·.args) =
    (other.marker? settings.routeMarker).map (·.args)
  fields : ∀ id, declaration.storedProperties.map (Field.ofProperty id settings.encodeMarker) =
    other.storedProperties.map (Field.ofProperty id settings.encodeMarker)
  typed : declaration.properties.all (·.isResolved) = other.properties.all (·.isResolved)

private theorem Alike.refl (declaration : Manifest.Declaration) :
    Alike settings declaration declaration :=
  ⟨rfl, rfl, rfl, fun _ => rfl, rfl⟩

private theorem Idle.unstored {property : Manifest.Property} (idle : Idle property) :
    property.isStored = false := by
  rcases idle.elsewhere with inherited | extension
  · simp [Manifest.Property.isStored, inherited]
  · simp [Manifest.Property.isStored, Option.isNone_eq_false_iff.mpr extension]

/-- An edit of a declaration does not show in what is looked at. -/
theorem DeclarationEdited.alike {declaration edited : Manifest.Declaration}
    (edit : DeclarationEdited settings declaration edited) : Alike settings declaration edited := by
  rcases edit with edit | replaced | adjusted
  · exact ⟨rfl, rfl, edit.args_eq, fun _ => rfl, rfl⟩
  · refine ⟨rfl, rfl, rfl, fun id => replaced.selected_eq ?_ ?_, replaced.all_eq ?_⟩
    · rintro property _ ⟨edit⟩
      rfl
    · rintro property _ ⟨edit⟩
      simp only [Field.ofProperty, Manifest.Property.hasMarker, edit.any_eq]
    · rintro property _ ⟨edit⟩
      rfl
  · have stored : declaration.storedProperties = _ :=
      adjusted.selected_eq fun property idle => idle.unstored
    exact ⟨rfl, rfl, rfl, fun id => congrArg (List.map _) stored,
      adjusted.all_eq fun property idle => idle.resolved⟩

/-! ## Requests and passes over what is alike -/

section Alike
variable {declaration other : Manifest.Declaration}

private theorem Alike.isResolved_eq (alike : Alike settings declaration other) :
    declaration.isResolved settings.routeMarker = other.isResolved settings.routeMarker := by
  have args := congrArg (Option.all fun args : List String => !args.isEmpty) alike.args
  simp only [Option.all_map] at args
  simp only [Manifest.Declaration.isResolved, alike.typed]
  exact congrArg (· && _) args

private theorem Alike.marked_eq (alike : Alike settings declaration other) :
    (declaration.marker? settings.routeMarker).isSome =
      (other.marker? settings.routeMarker).isSome := by
  simpa only [Option.isSome_map] using congrArg Option.isSome alike.args

private theorem Alike.descriptor_eq (alike : Alike settings declaration other) :
    Descriptor.ofDeclaration settings declaration = Descriptor.ofDeclaration settings other := by
  have fields (id : DeclarationId) :
      declaration.storedProperties.mapM (Field.ofProperty id settings.encodeMarker) =
        other.storedProperties.mapM (Field.ofProperty id settings.encodeMarker) := by
    have same := congrArg (List.mapM (fun field : Except BuildError Field => field)) (alike.fields id)
    rwa [List.mapM_map, List.mapM_map] at same
  have args := alike.args
  simp only [Descriptor.ofDeclaration, alike.id, fields]
  cases first : declaration.marker? settings.routeMarker with
  | none =>
    cases second : other.marker? settings.routeMarker with
    | none => rfl
    | some marker => simp [first, second] at args
  | some marker =>
    cases second : other.marker? settings.routeMarker with
    | none => simp [first, second] at args
    | some same =>
      simp only [first, second, Option.map_some, Option.some.injEq] at args
      simp only [args]

end Alike

/-- Manifests of the same settings whose declarations are alike one by one. -/
structure AllAlike (first second : Manifest) : Prop where
  settings : first.settings = second.settings
  declarations : List.Forall₂ (Alike first.settings) first.declarations second.declarations

private theorem Edited.alike {manifest edited : Manifest} (edit : Edited manifest edited) :
    AllAlike manifest edited := by
  obtain ⟨replaced⟩ := edit
  exact ⟨rfl, replaced.forall₂ Alike.refl fun _ _ change => change.alike⟩

/-- Contexts that differ in what was discovered, and there only in what does not
show. -/
structure ContextsAlike (settings : Manifest.Settings) (context other : Context) : Prop where
  configured : context.settings = settings
  discovered : List.Forall₂ (Alike settings) context.discovered other.discovered
  rest : other = { context with discovered := other.discovered }

section Manifests
variable {first second : Manifest}

private theorem AllAlike.marked (alike : AllAlike first second) :
    List.Forall₂ (Alike first.settings) (first.marked first.settings.routeMarker)
      (second.marked first.settings.routeMarker) := by
  refine List.rel_filter ?_ alike.declarations
  intro declaration other same
  simp only [same.marked_eq]

/-- Nothing but their files decides which source files declarations have. -/
theorem sourceFiles_congr
    (files : first.declarations.map (·.file) = second.declarations.map (·.file)) :
    first.sourceFiles = second.sourceFiles := by
  have known := congrArg (List.filterMap id) files
  rw [List.filterMap_map, List.filterMap_map] at known
  exact congrArg Files.Path.distinct known

private theorem AllAlike.sourceFiles_eq (alike : AllAlike first second) :
    first.sourceFiles = second.sourceFiles :=
  sourceFiles_congr (views_eq (fun _ _ same => same.file) alike.declarations)

private theorem AllAlike.valid_eq (alike : AllAlike first second)
    {declaration other : Manifest.Declaration}
    (same : Alike first.settings declaration other) :
    (Host.ofManifest first).isValid declaration = (Host.ofManifest second).isValid other := by
  simp only [Host.ofManifest, ← alike.settings, same.isResolved_eq]

private theorem AllAlike.found (alike : AllAlike first second) (name : String) :
    Option.Rel (Alike first.settings) (first.find? name) (second.find? name) := by
  refine find_alike (fun declaration other same => ?_) alike.declarations
  have simple : declaration.name = other.name := congrArg (·.name) same.id
  have qualified : declaration.qualifiedName = other.qualifiedName := congrArg (·.qualified) same.id
  rw [simple, qualified]

/-- Requests are answered alike, since they look at declarations in no other way
than a pass does. -/
theorem AllAlike.route_eq (alike : AllAlike first second) (name : String)
    (values : List (String × String)) : route first name values = route second name values := by
  have found := alike.found name
  unfold route
  cases one : first.find? name with
  | none =>
    cases two : second.find? name with
    | none => rfl
    | some other =>
      rw [one, two] at found
      cases found
  | some declaration =>
    cases two : second.find? name with
    | none =>
      rw [one, two] at found
      cases found
    | some other =>
      rw [one, two] at found
      cases found with
      | some same =>
        have qualified : declaration.qualifiedName = other.qualifiedName :=
          congrArg (·.qualified) same.id
        simp only [alike.valid_eq same, qualified, ← alike.settings, same.descriptor_eq]

variable {context other : Context}

private theorem discover_alike (alike : AllAlike first second) :
    ContextsAlike first.settings ((Context.initial (.ofManifest first)).discover (.ofManifest first))
      ((Context.initial (.ofManifest second)).discover (.ofManifest second)) := by
  have marked := alike.marked
  refine ⟨rfl, ?_, ?_⟩
  · simpa only [Context.discover, Context.report, Context.initial, Host.ofManifest,
      ← alike.settings] using marked
  · simp only [Context.discover, Context.report, Context.initial, Host.ofManifest,
      ← alike.settings, alike.sourceFiles_eq, marked.length_eq]

private theorem buildOne_alike (alike : AllAlike first second)
    {declaration same : Manifest.Declaration}
    (contexts : ContextsAlike first.settings context other)
    (declarations : Alike first.settings declaration same) :
    ContextsAlike first.settings (context.buildOne (.ofManifest first) declaration)
      (other.buildOne (.ofManifest second) same) := by
  obtain ⟨configured, discovered, rest⟩ := contexts
  have descriptor := declarations.descriptor_eq
  rw [rest]
  simp only [Context.buildOne, ← alike.valid_eq declarations, ← declarations.id, configured,
    ← descriptor]
  split
  · exact ⟨rfl, discovered, rfl⟩
  · split
    · exact ⟨rfl, discovered, rfl⟩
    · exact ⟨rfl, discovered, rfl⟩

private theorem build_alike (alike : AllAlike first second)
    (contexts : ContextsAlike first.settings context other) :
    ContextsAlike first.settings (context.build (.ofManifest first))
      (other.build (.ofManifest second)) :=
  List.rel_foldl (P := ContextsAlike first.settings) (R := Alike first.settings)
    (fun _ _ contexts _ _ => buildOne_alike alike contexts) contexts contexts.discovered

private theorem validate_alike (lints : List Lint)
    (contexts : ContextsAlike first.settings context other) :
    ContextsAlike first.settings (context.validate lints) (other.validate lints) := by
  obtain ⟨configured, discovered, rest⟩ := contexts
  rw [rest]
  exact ⟨configured, discovered, rfl⟩

private theorem emit_alike (emitter : Emitter)
    (contexts : ContextsAlike first.settings context other) :
    ContextsAlike first.settings (context.emit emitter) (other.emit emitter) := by
  obtain ⟨configured, discovered, rest⟩ := contexts
  rw [rest]
  exact ⟨configured, discovered, rfl⟩

private theorem classify_alike (alike : AllAlike first second)
    (contexts : ContextsAlike first.settings context other) :
    ContextsAlike first.settings (context.classify (.ofManifest first))
      (other.classify (.ofManifest second)) := by
  obtain ⟨configured, discovered, rest⟩ := contexts
  have retry : (context.discovered.filter fun declaration =>
      !(Host.ofManifest first).isValid declaration ||
        context.rejected.contains declaration.id).map (·.id) =
      (other.discovered.filter fun declaration =>
        !(Host.ofManifest second).isValid declaration ||
          context.rejected.contains declaration.id).map (·.id) := by
    refine views_eq (fun _ _ same => same.id) (List.rel_filter ?_ discovered)
    intro declaration same each
    simp only [alike.valid_eq each, each.id]
  rw [rest]
  simp only [Context.classify, ← retry]
  split
  · exact ⟨configured, discovered, rfl⟩
  · exact ⟨configured, discovered, rfl⟩

/-- The standard phases keep contexts alike, one phase after the other. -/
theorem settle_alike (alike : AllAlike first second) (lints : List Lint) (emitter : Emitter) :
    ContextsAlike first.settings (settle (.ofManifest first) lints emitter)
      (settle (.ofManifest second) lints emitter) :=
  classify_alike alike (emit_alike emitter (validate_alike lints
    (build_alike alike (discover_alike alike))))

end Manifests

/-! ## Any number of edits -/

/-- Passes that come out the same, whatever the declarations looked like. -/
structure SameResult (context other : Context) : Prop where
  descriptors : context.descriptors = other.descriptors
  units : context.units = other.units
  invalid : context.invalid = other.invalid
  rejected : context.rejected = other.rejected
  retry : context.retry = other.retry
  diagnostics : context.diagnostics = other.diagnostics

private theorem SameResult.trans {context middle other : Context}
    (first : SameResult context middle)
    (second : SameResult middle other) : SameResult context other :=
  ⟨first.descriptors.trans second.descriptors, first.units.trans second.units,
    first.invalid.trans second.invalid, first.rejected.trans second.rejected,
    first.retry.trans second.retry, first.diagnostics.trans second.diagnostics⟩

private theorem ContextsAlike.result {settings : Manifest.Settings} {context other : Context}
    (alike : ContextsAlike settings context other) : SameResult context other := by
  rw [alike.rest]
  exact ⟨rfl, rfl, rfl, rfl, rfl, rfl⟩

section Edits
variable {manifest edited : Manifest}

private theorem edits_settings (edits : Relation.ReflTransGen Edited manifest edited) :
    manifest.settings = edited.settings := by
  induction edits with
  | refl => rfl
  | tail _ edit ih => exact ih.trans edit.alike.settings

private theorem edits_route (edits : Relation.ReflTransGen Edited manifest edited) (name : String)
    (values : List (String × String)) : route manifest name values = route edited name values := by
  induction edits with
  | refl => rfl
  | tail _ edit ih => exact ih.trans (edit.alike.route_eq name values)

private theorem edits_settle (edits : Relation.ReflTransGen Edited manifest edited)
    (lints : List Lint)
    (emitter : Emitter) : SameResult (settle (.ofManifest manifest) lints emitter)
      (settle (.ofManifest edited) lints emitter) := by
  induction edits with
  | refl => exact ⟨rfl, rfl, rfl, rfl, rfl, rfl⟩
  | tail _ edit ih => exact ih.trans (settle_alike edit.alike lints emitter).result

/-- A pass in Kotlin over an edited manifest comes out as the one over the
manifest did, whatever the passes lint, and requests are answered as before. -/
theorem edits_unseen {σ : Type} (edits : Relation.ReflTransGen Edited manifest edited)
    (lints : List Lint) :
    ∃ context other,
      ({ kotlinGenerator manifest [] with lints } : Generator σ).run (.ofManifest manifest) =
        pure context ∧
      ({ kotlinGenerator edited [] with lints } : Generator σ).run (.ofManifest edited) =
        pure other ∧
      SameResult context other ∧
      ∀ name values, route manifest name values = route edited name values := by
  refine ⟨_, _, Generator.run_standard _ lints (.ofManifest manifest),
    Generator.run_standard _ lints (.ofManifest edited), ?_, edits_route edits⟩
  have language : (kotlinGenerator edited [] : Generator σ).emitter =
      (kotlinGenerator manifest [] : Generator σ).emitter := by
    simp only [kotlinGenerator, edits_settings edits]
  rw [language]
  exact edits_settle edits lints _

end Edits

/-- One route with a field that is encoded. -/
def plainManifest : Manifest where
  declarations := [{
    name := "Article"
    markers := [⟨"Destination", ["article"]⟩]
    properties := [{ name := "slug", type := some "String", markers := [⟨"EncodeUrl", []⟩] }] }]

def inheritedProperty : Manifest.Property where
  name := "base"
  type := some "Any"
  inherited := true

/-- The same behind further markers, qualified names and an inherited
property. -/
def noisyManifest : Manifest where
  declarations := [{
    name := "Article"
    markers := [⟨"app.Other", ["other"]⟩, ⟨"com.nav.Destination", ["article"]⟩]
    properties := [
      inheritedProperty,
      { name := "slug", type := some "String", markers := [⟨"Keep", []⟩, ⟨"nav.EncodeUrl", []⟩] }] }]

private theorem plain_edited : Relation.ReflTransGen Edited plainManifest noisyManifest := by
  refine .head (.declaration (.at [] [] (.markers (.qualified (.at [] [] (.by "com.nav" _)))))) ?_
  refine .head (.declaration (.at [] [] (.markers (.others
    (.inserted [] _ ⟨"app.Other", ["other"]⟩ (by decide)))))) ?_
  refine .head (.declaration (.at [] [] (.property (.at [] []
    (.markers (.qualified (.at [] [] (.by "nav" _)))))))) ?_
  refine .head (.declaration (.at [] [] (.property (.at [] [] (.markers (.others
    (.inserted [] _ ⟨"Keep", []⟩ (by decide)))))))) ?_
  exact .head (.declaration (.at [] [] (.properties
    (.inserted [] _ inheritedProperty ⟨.inl rfl, by decide⟩)))) .refl

theorem edits_unseen_noisy :
    Relation.ReflTransGen Edited plainManifest noisyManifest ∧
      ∃ context other,
        (kotlinGenerator plainManifest [] : Generator Unit).run (.ofManifest plainManifest) =
          pure context ∧
        (kotlinGenerator noisyManifest [] : Generator Unit).run (.ofManifest noisyManifest) =
          pure other ∧
        context.units.map (·.name) = ["ArticleDestination"] ∧ SameResult context other ∧
        route plainManifest "Article" [("slug", "a b")] = .ok "article/a+b" ∧
        route noisyManifest "Article" [("slug", "a b")] = .ok "article/a+b" := by
  obtain ⟨context, other, ran, otherRan, same, routes⟩ :=
    edits_unseen (σ := Unit) plain_edited standardLints
  have settled := (Generator.run_standard _ standardLints (.ofManifest plainManifest)).symm.trans
    ran
  cases congrArg (fun action => (ExceptT.run action).run ()) settled
  have path : route plainManifest "Article" [("slug", "a b")] = .ok "article/a+b" := by
    decide +kernel
  exact ⟨plain_edited, _, other, ran, otherRan, by decide +kernel, same, path,
    (routes _ _).symm.trans path⟩

end TypedRoutes.UnseenEdits
