import TypedRoutes.Command.Check

/-!
Explaining a manifest: the phases and lints of a pass, and the templates of every route in it.
-/
namespace TypedRoutes.Command

open Pipeline Route

/-- What there is to say about one route, in terms of its descriptor and its unit. -/
structure RouteNote where
  declaration : String
  /-- The path of its unit below the output directory. -/
  unit : String
  descriptor : Descriptor

/-- What explaining a manifest found. Phases and lints are given by name and description. -/
structure ExplainReport where
  configPath : String
  language : String
  routeMarker : String
  encodeMarker : String
  phases : List (String × String)
  lints : List (String × String)
  routes : List RouteNote
  deferred : List String

/-- Names and descriptions of all phases that a generator goes through. They are read off the phases
themselves, as no phase tells of itself in other words. -/
def phaseNotes {σ : Type} (generator : Generator σ) (host : Host) : List (String × String) :=
  (generator.allPhases host).map fun phase => (phase.name, phase.description)

def lintNotes (lints : List Lint) : List (String × String) :=
  lints.map fun lint => (lint.name, lint.description)

/-- Explains a manifest that was given by the path shown in the report. Routes are those that a pass
would generate units for. -/
def explain (manifest : Manifest) (configPath : String) : ExplainReport :=
  let emitter := Kotlin.emitter (.ofSettings manifest.settings)
  let context := manifest.settled
  { configPath
    language := emitter.language
    routeMarker := manifest.settings.routeMarker
    encodeMarker := manifest.settings.encodeMarker
    phases := phaseNotes ({ emitter } : Generator Unit) (.ofManifest manifest)
    lints := lintNotes standardLints
    routes := (context.descriptors.zip context.units).map fun (descriptor, unit) =>
      ⟨descriptor.source.qualified, unit.relativePath, descriptor⟩
    deferred := context.deferred }

def fieldText (field : Field) : String :=
  field.name ++ ": " ++ field.declaredType ++ " (" ++ kindLabel field.kind ++
    (if field.encode then ", encoded" else "") ++ ")"

def RouteNote.lines (note : RouteNote) : Report :=
  [.divider note.declaration,
    .nested "unit" note.unit,
    .nested "route name" note.descriptor.routeName,
    .nested "routeKey" note.descriptor.key,
    .nested "routePath" note.descriptor.path] ++
    (if note.descriptor.fields.isEmpty then []
      else .heading "  fields" :: note.descriptor.fields.map (.item <| fieldText ·)) ++
    [.blank]

def ExplainReport.lines (report : ExplainReport) : Report :=
  Line.title "Wayfinder Pipeline Explanation" ++
    [.blank,
      .pair "Input" report.configPath,
      .nested "Language" report.language,
      .nested "Route marker" report.routeMarker,
      .nested "Encode marker" report.encodeMarker,
      .blank,
      .heading "Pipeline Phases"] ++
    report.phases.mapIdx (fun index (name, description) =>
      .numbered (index + 1) (name ++ " - " ++ description)) ++
    [.blank, .heading "Validation Lints"] ++
    report.lints.map (fun (name, description) => .item (name ++ ": " ++ description)) ++
    [.blank, .heading ("Routes (" ++ toString report.routes.length ++ ")")] ++
    report.routes.flatMap (·.lines) ++
    (if report.deferred.isEmpty then [] else Report.deferredList report.deferred)

end TypedRoutes.Command
