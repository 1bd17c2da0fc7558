import TypedRoutes.Command.Generate
import TypedRoutes.Proofs.UnitPaths

/-! Declarations do not disturb each other. A pass shares one context among all
of them and looks up by identity which ones were rejected, yet what becomes of a
declaration is decided by the settings and its own contents. So it is the same
in every pass, whatever else is declared and in whatever order. -/
namespace TypedRoutes.IndependentDeclarations
open Command Pipeline Route PassExecution PassOutcome PassPartition SoundManifests UnitPaths

/-- A unit but for the files that it depends on, which are those of the whole
manifest and change with it. -/
def rendered (unit : GeneratedUnit) : GeneratedUnit :=
  { unit with dependencies := {} }

/-- The units that a pass made from a declaration, found by the identity that
they name as their source. -/
def unitsOf (context : Context) (declaration : Manifest.Declaration) : List GeneratedUnit :=
  (context.units.filter fun unit => unit.source = declaration.id).map rendered

/-- Declarations in order come out in this order, each as in an earlier pass, so
adding to a manifest moves nothing that was there. -/
structure Follows (context earlier : Context) (declarations : List Manifest.Declaration) :
    Prop where
  units : context.units.map rendered = declarations.flatMap (unitsOf earlier)
  retry : context.retry = (declarations.map (·.id)).filter (· ∈ earlier.retry)

/-- The passes over two manifests agree on the declarations that both have. What
else either of them has does not show in these. -/
structure Independent (first second : Manifest) (context other : Context) : Prop where
  /-- A declaration has one unit or none. -/
  single : ∀ declaration ∈ first.declarations, (unitsOf context declaration).length ≤ 1
  /-- It has the same unit in the other pass, or none there either. -/
  units : ∀ declaration ∈ first.declarations, declaration ∈ second.declarations →
    unitsOf context declaration = unitsOf other declaration
  retried : ∀ declaration ∈ first.declarations, declaration ∈ second.declarations →
    (declaration.id ∈ context.retry ↔ declaration.id ∈ other.retry)
  ordered : Follows context context first.declarations
  /-- Reordering declarations, or leaving some out, does just this to what
  comes of them. -/
  reordered : (∀ declaration ∈ second.declarations, declaration ∈ first.declarations) →
    Follows other context second.declarations

/-! ## What a declaration decides by itself -/

section Lists
variable {host : Host} {settings : Manifest.Settings} {declarations : List Manifest.Declaration}
  {declaration : Manifest.Declaration}

private theorem described_own (distinct : (declarations.map (·.id)).Nodup)
    (member : declaration ∈ declarations) :
    (described host settings declarations).filter (fun descriptor =>
      descriptor.source = declaration.id) =
        (verdict host settings declaration).descriptor?.toList := by
  obtain ⟨before, after, rfl⟩ := List.append_of_mem member
  rw [List.map_append, List.map_cons, List.nodup_middle, List.nodup_cons, ← List.map_append]
    at distinct
  have apart (others : List Manifest.Declaration) (inside : others ⊆ before ++ after) :
      (described host settings others).filter (fun descriptor =>
        descriptor.source = declaration.id) = [] := by
    simp only [List.filter_eq_nil_iff, described, List.mem_filterMap, decide_eq_true_eq]
    rintro descriptor ⟨other, member, found⟩ same
    rw [verdict_source found] at same
    exact distinct.1 (same ▸ List.mem_map_of_mem (inside member))
  have parts : described host settings (before ++ declaration :: after) =
      described host settings before ++
        ((verdict host settings declaration).descriptor?.toList ++
          described host settings after) := by
    simp only [described, List.filterMap_eq_flatMap_toList, List.flatMap_append, List.flatMap_cons]
  have kept : (verdict host settings declaration).descriptor?.toList.filter (fun descriptor =>
      descriptor.source = declaration.id) =
        (verdict host settings declaration).descriptor?.toList := by
    rw [List.filter_eq_self]
    intro descriptor found
    exact decide_eq_true (verdict_source (Option.mem_toList.mp found))
  rw [parts, List.filter_append, List.filter_append, kept, apart before (by simp),
    apart after (by simp), List.nil_append, List.append_nil]

private theorem aside_own (distinct : (declarations.map (·.id)).Nodup) :
    (declarations.filter fun declaration => !host.isValid declaration ||
        (refused host settings declarations).contains declaration.id) =
      declarations.filter fun declaration =>
        (verdict host settings declaration).descriptor?.isNone := by
  refine List.filter_congr fun declaration member => ?_
  have rejected := id_mem_selected distinct
    (fun declaration => (verdict host settings declaration).isRefused) member
  have unvouched : (verdict host settings declaration).isWaiting = !host.isValid declaration :=
    verdict_isWaiting declaration
  rw [← unvouched, List.contains_eq_mem]
  simp only [refused, rejected]
  cases verdict host settings declaration with
  | waiting => rfl
  | refused error => rfl
  | described descriptor => rfl

end Lists

variable {manifest first second : Manifest} {declaration : Manifest.Declaration}
  {lints : List Lint} {emitter : Emitter}

/-- What becomes of a declaration in a pass over its manifest. -/
def ownVerdict (manifest : Manifest) (declaration : Manifest.Declaration) : Verdict :=
  verdict (.ofManifest manifest) manifest.settings declaration

/-- Whether a pass over its manifest puts a declaration aside, to be tried again
in a later one. -/
def aside (manifest : Manifest) (declaration : Manifest.Declaration) : Bool :=
  (ownVerdict manifest declaration).descriptor?.isNone &&
    (declaration.marker? manifest.settings.routeMarker).isSome

/-- Nothing but the settings of a manifest matters to the verdicts, so manifests
with the same settings have the same ones. -/
theorem ownVerdict_settings (same : first.settings = second.settings) :
    ownVerdict first = ownVerdict second := by
  obtain ⟨settings, declarations⟩ := first
  obtain ⟨otherSettings, others⟩ := second
  obtain rfl : settings = otherSettings := same
  rfl

private theorem described_all (manifest : Manifest) :
    described (.ofManifest manifest) manifest.settings
        (manifest.marked manifest.settings.routeMarker) =
      described (.ofManifest manifest) manifest.settings manifest.declarations := by
  simp only [described, Manifest.marked, List.filterMap_filter]
  refine List.filterMap_congr fun declaration _ => ?_
  split
  · rfl
  · rename_i unmarked
    cases found : (verdict (.ofManifest manifest) manifest.settings declaration).descriptor? with
    | none => rfl
    | some descriptor =>
      exact absurd (Descriptors.described_marked (verdict_described.mp found).2) unmarked

private theorem settle_units : (settle (.ofManifest manifest) lints emitter).units.map rendered =
    (described (.ofManifest manifest) manifest.settings manifest.declarations).map
      emitter.emit := by
  have files : filed (settle (.ofManifest manifest) lints emitter) = outcome _ _ _ _ :=
    settle_files lints emitter
  have units : (settle (.ofManifest manifest) lints emitter).units =
      (described (.ofManifest manifest) manifest.settings
        (manifest.marked manifest.settings.routeMarker)).map fun descriptor =>
          { emitter.emit descriptor with dependencies := .all manifest.sourceFiles } :=
    congrArg Context.units files
  rw [units, List.map_map, described_all]
  rfl

private theorem settle_retry (distinct : (manifest.declarations.map (·.id)).Nodup) :
    (settle (.ofManifest manifest) lints emitter).retry =
      (manifest.declarations.filter (aside manifest)).map (·.id) := by
  have files : filed (settle (.ofManifest manifest) lints emitter) = outcome _ _ _ _ :=
    settle_files lints emitter
  have retry : (settle (.ofManifest manifest) lints emitter).retry =
      ((manifest.marked manifest.settings.routeMarker).filter fun declaration =>
        !(Host.ofManifest manifest).isValid declaration ||
          (refused (.ofManifest manifest) manifest.settings
            (manifest.marked manifest.settings.routeMarker)).contains declaration.id).map (·.id) :=
    congrArg Context.retry files
  have discovered : ((manifest.marked manifest.settings.routeMarker).map (·.id)).Nodup :=
    distinct.sublist ((marked_sublist manifest manifest.settings.routeMarker).map _)
  rw [retry, aside_own discovered, Manifest.marked, List.filter_filter]
  rfl

/-- A declaration has the unit of its own descriptor, and no unit when there is
none. -/
theorem settle_unitsOf (distinct : (manifest.declarations.map (·.id)).Nodup)
    (member : declaration ∈ manifest.declarations) :
    unitsOf (settle (.ofManifest manifest) lints emitter) declaration =
      ((ownVerdict manifest declaration).descriptor?.map emitter.emit).toList := by
  have kept : unitsOf (settle (.ofManifest manifest) lints emitter) declaration =
      ((settle (.ofManifest manifest) lints emitter).units.map rendered).filter
        fun unit => unit.source = declaration.id := by
    rw [List.filter_map]
    rfl
  have own : (described (.ofManifest manifest) manifest.settings manifest.declarations).filter
      (fun descriptor => descriptor.source = declaration.id) =
        (ownVerdict manifest declaration).descriptor?.toList := described_own distinct member
  rw [kept, settle_units, List.filter_map, Option.toList_map, ← own]
  rfl

private theorem settle_retried (distinct : (manifest.declarations.map (·.id)).Nodup)
    (member : declaration ∈ manifest.declarations) :
    declaration.id ∈ (settle (.ofManifest manifest) lints emitter).retry ↔
      aside manifest declaration = true := by
  rw [settle_retry distinct]
  exact id_mem_selected distinct (aside manifest) member

/-- A pass over declarations that another pass with the same settings had comes
out as the other one did. -/
theorem settle_follows {otherLints : List Lint} (same : first.settings = second.settings)
    (distinct : (first.declarations.map (·.id)).Nodup)
    (otherDistinct : (second.declarations.map (·.id)).Nodup)
    (included : ∀ declaration ∈ second.declarations, declaration ∈ first.declarations) :
    Follows (settle (.ofManifest second) otherLints emitter)
      (settle (.ofManifest first) lints emitter) second.declarations := by
  constructor
  · rw [settle_units, described, List.filterMap_eq_flatMap_toList, List.map_flatMap]
    refine List.flatMap_congr fun declaration member => ?_
    rw [settle_unitsOf distinct (included declaration member), ownVerdict_settings same,
      Option.toList_map]
    rfl
  · rw [settle_retry otherDistinct, List.filter_map]
    have asides : second.declarations.filter (aside second) = second.declarations.filter
        fun declaration => declaration.id ∈ (settle (.ofManifest first) lints emitter).retry := by
      refine List.filter_congr fun declaration member => ?_
      rw [Bool.eq_iff_iff, decide_eq_true_iff, settle_retried distinct (included _ member)]
      simp only [aside, ownVerdict_settings same, same]
    rw [asides]
    rfl

private theorem settle_independent {otherLints : List Lint}
    (same : first.settings = second.settings)
    (sound : Sound first) (otherSound : Sound second) :
    Independent first second (settle (.ofManifest first) lints emitter)
      (settle (.ofManifest second) otherLints emitter) := by
  have distinct := identities_distinct sound
  have otherDistinct := identities_distinct otherSound
  refine ⟨?_, ?_, ?_, settle_follows rfl distinct distinct fun _ => id,
    settle_follows same distinct otherDistinct⟩
  · intro declaration member
    rw [settle_unitsOf distinct member]
    exact Option.length_toList_le
  · intro declaration member otherMember
    rw [settle_unitsOf distinct member, settle_unitsOf otherDistinct otherMember,
      ownVerdict_settings same]
  · intro declaration member otherMember
    rw [settle_retried distinct member, settle_retried otherDistinct otherMember, aside, aside,
      ownVerdict_settings same, same]

/-- Passes in Kotlin over two manifests that were read from texts and have the
same settings come to their ends and agree on the declarations that are in both,
whatever else was added, removed, changed or resolved in between, and whatever
the passes lint. -/
theorem declarations_independent {σ : Type} {source file otherSource otherFile : String}
    (accepted : Manifest.parse source file = .ok first)
    (otherAccepted : Manifest.parse otherSource otherFile = .ok second)
    (same : first.settings = second.settings) (lints otherLints : List Lint) :
    ∃ context other,
      ({ kotlinGenerator first [] with lints } : Generator σ).run (.ofManifest first) =
        pure context ∧
      ({ kotlinGenerator second [] with lints := otherLints } : Generator σ).run
        (.ofManifest second) = pure other ∧
      Independent first second context other := by
  refine ⟨_, _, Generator.run_standard _ lints (.ofManifest first),
    Generator.run_standard _ otherLints (.ofManifest second), ?_⟩
  have language : (kotlinGenerator second [] : Generator σ).emitter =
      (kotlinGenerator first [] : Generator σ).emitter := by
    simp only [kotlinGenerator, same]
  rw [language]
  exact settle_independent same (parse_ok.mp accepted).2 (parse_ok.mp otherAccepted).2

/-- Two declarations, one of which waits for its route. -/
def earlyText : String :=
  "[[declaration]]\nname=\"Late\"\nannotations=[\"Destination\"]\n" ++
  "[[declaration]]\nname=\"Home\"\nannotations=[\x7bname=\"Destination\",args=[\"home\"]\x7d]\n"

/-- The declarations the other way around, with the route that was missing. -/
def lateText : String :=
  "[[declaration]]\nname=\"Home\"\nannotations=[\x7bname=\"Destination\",args=[\"home\"]\x7d]\n" ++
  "[[declaration]]\nname=\"Late\"\nannotations=[\x7bname=\"Destination\",args=[\"late\"]\x7d]\n"

def homeDeclaration : Manifest.Declaration where
  name := "Home"
  markers := [⟨"Destination", ["home"]⟩]

def earlyManifest : Manifest where
  declarations := [{ name := "Late", markers := [⟨"Destination", []⟩] }, homeDeclaration]

def lateManifest : Manifest where
  declarations := [homeDeclaration, { name := "Late", markers := [⟨"Destination", ["late"]⟩] }]

private theorem early_accepted : Manifest.parse earlyText "wayfinder.toml" = .ok earlyManifest :=
  parse_checked (by cbv) (by rfl)

private theorem late_accepted : Manifest.parse lateText "wayfinder.toml" = .ok lateManifest :=
  parse_checked (by cbv) (by rfl)

theorem declarations_independent_resolved :
    Manifest.parse earlyText "wayfinder.toml" = .ok earlyManifest ∧
      Manifest.parse lateText "wayfinder.toml" = .ok lateManifest ∧
      earlyManifest.settings = lateManifest.settings ∧
      ∃ context other,
        context.retry = [⟨"", "Late"⟩] ∧ other.retry = [] ∧
        context.units.map (·.source) = [homeDeclaration.id] ∧
        other.units.map (·.source) = [homeDeclaration.id, ⟨"", "Late"⟩] ∧
        unitsOf context homeDeclaration = unitsOf other homeDeclaration ∧
        Independent earlyManifest lateManifest context other := by
  obtain ⟨context, other, ran, otherRan, independent⟩ :=
    declarations_independent (σ := Unit) early_accepted late_accepted rfl [] []
  have settled := (Generator.run_standard _ [] (.ofManifest earlyManifest)).symm.trans ran
  have otherSettled := (Generator.run_standard _ [] (.ofManifest lateManifest)).symm.trans otherRan
  cases congrArg (fun action => (ExceptT.run action).run ()) settled
  cases congrArg (fun action => (ExceptT.run action).run ()) otherSettled
  exact ⟨early_accepted, late_accepted, rfl, _, _, by decide +kernel, by decide +kernel,
    by decide +kernel, by decide +kernel,
    independent.units homeDeclaration (by simp [earlyManifest]) (by simp [lateManifest]),
    independent⟩

end TypedRoutes.IndependentDeclarations
