import TypedRoutes.Files.Overwrite
import TypedRoutes.Proofs.FileTree
import TypedRoutes.Proofs.UnitPaths

/-! The state that generating leaves an output directory in. Below it, what has
the name of a unit's file is a file of text, and nothing else is one. So no
unit finds a directory in its place or a file on its way, whichever units were
written before. -/
namespace TypedRoutes.OutputDirectory
open Files FileSystem Pipeline PathPieces PassExecution FileTree UnitPaths

/-- The location that an output path leads to, whether or not anything is there
yet. -/
def directory (fs : FileSystem) (out : String) : Location :=
  descend (start fs out) (Path.pieces out)

/-- The locations that an output path leads through, its own included. With `..`
in the path these need not lie below each other. -/
def way (fs : FileSystem) (out : String) : List Location :=
  stops (start fs out) (Path.pieces out)

/-- Where the file of a unit goes: below the output directory, in the directory
of its package. -/
def unitLocation (fs : FileSystem) (out : String) (unit : GeneratedUnit) : Location :=
  directory fs out ++ unitNames unit.source

/-- An output directory that holds nothing but what generating has left there.
Every run finds it like this and leaves it like this. -/
structure Settled (fs : FileSystem) (out : String) : Prop extends Rooted fs where
  unbroken : '\x00' ∉ out.toList
  /-- No file is in the way of the output path. -/
  passable : ∀ stop ∈ way fs out, ∀ bytes, fs.node? stop ≠ some (.file bytes)
  /-- The output path does not come back up from where a unit's file could go. -/
  clear : ∀ stop ∈ way fs out, ∀ below base,
    stop ≠ directory fs out ++ (below ++ [fileName base])
  /-- No directory has the name of a unit's file. -/
  directories : ∀ below base,
    fs.node? (directory fs out ++ (below ++ [fileName base])) ≠ some .directory
  /-- Only the file of a unit is a file, and it holds text. -/
  files : ∀ below name bytes, fs.node? (directory fs out ++ (below ++ [name])) = some (.file bytes) →
    (∃ base, name = fileName base) ∧ ∃ text : String, bytes = text.toUTF8
  /-- Once there is a file, the output path leads to it. -/
  reached : ∀ below name bytes,
    fs.node? (directory fs out ++ (below ++ [name])) = some (.file bytes) →
      ∀ stop ∈ way fs out, fs.node? stop = some .directory

variable {fs : FileSystem} {out : String} {unit : GeneratedUnit}

private theorem directory_eq {after : FileSystem} (same : after.workdir = fs.workdir) :
    directory after out = directory fs out := by
  simp [directory, start, same]

private theorem way_eq {after : FileSystem} (same : after.workdir = fs.workdir) :
    way after out = way fs out := by
  simp [way, start, same]

/-! ## Finding a unit's file -/

/-- The names in front of the file of a unit below an output path. -/
def unitFront (out : String) (unit : GeneratedUnit) : List String :=
  stem out ++ directoryNames unit.source.package

private theorem pieces_pathBelow (located : Located unit) (out : String) :
    Path.pieces (unit.pathBelow out) = unitFront out unit ++ [fileName unit.source.name] := by
  have relative := named_relative (located.pieces ▸ located.named)
  rw [GeneratedUnit.pathBelow, pieces_join out relative, located.pieces, unitNames, unitFront,
    List.append_assoc]

private theorem start_pathBelow (located : Located unit) (fs : FileSystem) (out : String) :
    start fs (unit.pathBelow out) = start fs out := by
  have relative := named_relative (located.pieces ▸ located.named)
  rw [start, start, GeneratedUnit.pathBelow, isAbsolute_join out relative]

private theorem descend_stem (location : Location) (out : String) :
    descend location (stem out) = descend location (Path.pieces out) := by
  rcases pieces_stem out with split | split
  · rw [split]
  · rw [split, descend_append]
    rfl

private theorem mem_stops_stem {location stop : Location} (out : String) :
    stop ∈ stops location (stem out) ↔ stop ∈ stops location (Path.pieces out) := by
  rcases pieces_stem out with split | split
  · rw [split]
  · have last : stop ∈ stops (descend location (stem out)) [""] ↔
        stop = descend location (stem out) := by
      simp [stops, Path.isIdle]
    rw [split, mem_stops_append, last]
    constructor
    · exact .inl
    · rintro (member | rfl)
      · exact member
      · exact mem_stops_end location (stem out)

/-- Where the front of a unit's path leads: to the directory of its package. -/
theorem descend_unitFront (located : Located unit) (fs : FileSystem) (out : String) :
    descend (start fs out) (unitFront out unit) =
      directory fs out ++ directoryNames unit.source.package := by
  rw [unitFront, descend_append, descend_stem, directory,
    descend_named fun name member => (located.directories member).1]

private theorem mem_stops_unitFront (located : Located unit) {stop : Location} :
    stop ∈ stops (start fs out) (unitFront out unit) ↔
      stop ∈ way fs out ∨ ∃ front, front <+: directoryNames unit.source.package ∧
        stop = directory fs out ++ front := by
  rw [unitFront, mem_stops_append, mem_stops_stem, descend_stem,
    mem_stops_named fun name member => (located.directories member).1]
  rfl

theorem directory_mem_way (fs : FileSystem) (out : String) : directory fs out ∈ way fs out :=
  mem_stops_end _ _

private theorem unitLocation_concat (fs : FileSystem) (out : String) (unit : GeneratedUnit) :
    unitLocation fs out unit =
      directory fs out ++ (directoryNames unit.source.package ++ [fileName unit.source.name]) :=
  rfl

private theorem relativePath_unbroken (located : Located unit) :
    '\x00' ∉ unit.relativePath.toList := by
  intro broken
  obtain ⟨piece, member, held⟩ := (mem_pieces _ '\x00').mpr ⟨broken, by decide⟩
  exact (located.named piece (located.pieces ▸ member)).unbroken held

private theorem pathBelow_unbroken (located : Located unit) (unbroken : '\x00' ∉ out.toList) :
    '\x00' ∉ (unit.pathBelow out).toList := by
  have own := relativePath_unbroken located
  unfold GeneratedUnit.pathBelow Path.join
  split
  · exact own
  · split <;> simp [unbroken, own]

private theorem origin_pathBelow (settled : Settled fs out) (located : Located unit) :
    fs.origin (unit.pathBelow out) =
      .ok (start fs out, unitFront out unit ++ [fileName unit.source.name]) := by
  have nonempty := named_nonempty (pieces_pathBelow located out) (fileName_named located.name)
  rw [settled.toRooted.origin nonempty (pathBelow_unbroken located settled.unbroken),
    start_pathBelow located, pieces_pathBelow located]

private theorem resolve_pathBelow (settled : Settled fs out) (located : Located unit)
    {location : Location} (arrived : fs.resolve (unit.pathBelow out) = .ok location) :
    location = unitLocation fs out unit := by
  simp only [resolve, origin_pathBelow settled located, bind, Except.bind] at arrived
  rw [walk_descend arrived, descend_append, descend_unitFront located,
    descend_named (by simpa using fileName_named located.name), List.append_assoc]
  rfl

private theorem pathBelow_resolves (settled : Settled fs out) (located : Located unit)
    {bytes : ByteArray}
    (held : fs.node? (unitLocation fs out unit) = some (.file bytes)) :
    fs.resolve (unit.pathBelow out) = .ok (unitLocation fs out unit) := by
  simp only [resolve, origin_pathBelow settled located, bind, Except.bind]
  rw [walk_through settled.toRooted (fileName_named located.name), descend_unitFront located,
    List.append_assoc]
  · rfl
  · intro stop member
    rcases (mem_stops_unitFront located).mp member with way | ⟨front, ⟨rest, whole⟩, rfl⟩
    · exact settled.reached _ _ _ held stop way
    · have proper : rest ++ [fileName unit.source.name] ≠ [] := by simp
      apply settled.toRooted.above proper
      rw [List.append_assoc, ← List.append_assoc front, whole]
      simp [← unitLocation_concat, held]

/-- Reading a unit's file is looking at its location, so paths need not be
walked any more. -/
theorem readBytes_pathBelow (settled : Settled fs out) (located : Located unit)
    {bytes : ByteArray} :
    fs.readBytes (unit.pathBelow out) = .ok bytes ↔
      fs.node? (unitLocation fs out unit) = some (.file bytes) := by
  rw [readBytes_ok]
  constructor
  · rintro ⟨location, arrived, held⟩
    rwa [← resolve_pathBelow settled located arrived]
  · intro held
    exact ⟨_, pathBelow_resolves settled located held, held⟩

/-- What is found where a unit goes is a file of text. So comparing it with the
content never fails. -/
theorem pathExists_pathBelow (settled : Settled fs out) (located : Located unit) :
    fs.pathExists (unit.pathBelow out) = true ↔
      ∃ text : String, fs.node? (unitLocation fs out unit) = some (.file text.toUTF8) := by
  constructor
  · intro found
    unfold pathExists at found
    split at found
    · rename_i location arrived
      rw [resolve_pathBelow settled located arrived] at found
      obtain ⟨node, held⟩ := Option.isSome_iff_exists.mp found
      cases node with
      | directory => exact absurd held (settled.directories _ _)
      | file bytes =>
        obtain ⟨-, text, rfl⟩ := settled.files _ _ _ held
        exact ⟨text, held⟩
    · cases found
  · rintro ⟨text, held⟩
    exact pathExists_held ((readBytes_pathBelow settled located).mpr held)

/-! ## Writing a unit's file -/

/-- What writing units leaves behind: their files hold their contents, every
other file is as it was, and the directory is settled again. -/
structure Wrote (out : String) (units : List GeneratedUnit) (before after : FileSystem) :
    Prop where
  settled : Settled after out
  workdir : after.workdir = before.workdir
  held : ∀ unit ∈ units,
    after.node? (unitLocation before out unit) = some (.file unit.content.toUTF8)
  /-- No other file is made, changed or lost. -/
  kept : ∀ location, (∀ unit ∈ units, location ≠ unitLocation before out unit) →
    ∀ bytes, after.node? location = some (.file bytes) ↔ before.node? location = some (.file bytes)
  /-- Nothing is touched when all files are there already. -/
  still : (∀ unit ∈ units,
    before.node? (unitLocation before out unit) = some (.file unit.content.toUTF8)) → after = before

/-- What becomes of a unit's file. A file with the same text is left alone. -/
def fate (fs : FileSystem) (out : String) (unit : GeneratedUnit) : WriteOutcome :=
  if fs.node? (unitLocation fs out unit) = some (.file unit.content.toUTF8) then .unchanged
  else .written

/-- No directory that a unit needs stands where a unit's file could go, since a
file name has a dot and the name of such a directory has none. -/
theorem stop_not_file (settled : Settled fs out) (located : Located unit) {stop : Location}
    (member : stop ∈ stops (start fs out) (unitFront out unit)) (below : List String)
    (base : String) : stop ≠ directory fs out ++ (below ++ [fileName base]) := by
  rcases (mem_stops_unitFront located).mp member with way | ⟨front, inside, rfl⟩
  · exact settled.clear stop way below base
  · intro same
    have name : fileName base ∈ front := by
      rw [List.append_cancel_left same]
      simp
    exact (located.directories (inside.subset name)).2 (fileName_dotted base)

/-- No file is in the way of a unit, whichever units have been written
before. -/
theorem stop_free (settled : Settled fs out) (located : Located unit) {stop : Location}
    (member : stop ∈ stops (start fs out) (unitFront out unit)) (bytes : ByteArray) :
    fs.node? stop ≠ some (.file bytes) := by
  intro held
  have apart := stop_not_file settled located member
  rcases (mem_stops_unitFront located).mp member with way | ⟨front, inside, rfl⟩
  · exact settled.passable stop way bytes held
  · rcases List.eq_nil_or_concat front with rfl | ⟨below, name, rfl⟩
    · rw [List.append_nil] at held
      exact settled.passable _ (directory_mem_way fs out) bytes held
    · rw [List.concat_eq_append] at held apart
      obtain ⟨⟨base, rfl⟩, -⟩ := settled.files below name bytes held
      exact apart below base rfl

/-- Once the directories above a unit are there, putting its file into its place
keeps the output directory settled. -/
theorem put_settled (settled : Settled fs out) (located : Located unit) {opened : FileSystem}
    (made : Opened (stops (start fs out) (unitFront out unit)) fs opened) (text : String) :
    Settled (opened.put (unitLocation fs out unit) (.file text.toUTF8)) out := by
  have above : opened.node? (directory fs out ++ directoryNames unit.source.package) =
      some .directory :=
    made.there _ ((mem_stops_unitFront located).mpr (.inr ⟨_, List.prefix_rfl, rfl⟩))
  have vacant (below : List String) (base : String) :
      opened.node? (directory fs out ++ (below ++ [fileName base])) ≠ some .directory := by
    rcases made.grown (directory fs out ++ (below ++ [fileName base])) with same | ⟨member, -, -⟩
    · rw [same]
      exact settled.directories below base
    · exact absurd rfl (stop_not_file settled located member below base)
  have rooted : Rooted (opened.put (unitLocation fs out unit) (.file text.toUTF8)) := by
    rw [unitLocation_concat, ← List.append_assoc]
    refine made.rooted.put above ?_
    rw [List.append_assoc]
    exact vacant _ _
  have found := node?_put opened (by simp [unitLocation_concat] : unitLocation fs out unit ≠ [])
    (.file text.toUTF8)
  have workdir : (opened.put (unitLocation fs out unit) (.file text.toUTF8)).workdir =
      fs.workdir := made.workdir
  -- From here on only what the new file system holds matters, not how it was made.
  generalize opened.put (unitLocation fs out unit) (.file text.toUTF8) = after at *
  have reached : ∀ stop ∈ way fs out, after.node? stop = some .directory := by
    intro stop member
    have apart : stop ≠ unitLocation fs out unit := settled.clear stop member _ _
    rw [found, if_neg apart]
    exact made.there stop ((mem_stops_unitFront located).mpr (.inl member))
  refine ⟨rooted, settled.unbroken, ?_, ?_, ?_, ?_, ?_⟩
  all_goals simp only [directory_eq workdir, way_eq workdir]
  · intro stop member bytes
    simp [reached stop member]
  · exact settled.clear
  · intro below base
    rw [found]
    split
    · simp
    · exact vacant below base
  · intro below name bytes held
    rw [found] at held
    split at held
    · rename_i same
      cases held
      have ends := List.append_inj' (List.append_cancel_left same) rfl
      exact ⟨⟨_, (List.cons.inj ends.2).1⟩, text, rfl⟩
    · exact settled.files below name bytes ((made.file_iff _ _).mp held)
  · intro below name bytes held
    exact reached

private theorem put_unit (settled : Settled fs out) (located : Located unit)
    (stale : fs.node? (unitLocation fs out unit) ≠ some (.file unit.content.toUTF8)) :
    ∃ after, Succeeds (writeWithParents (unit.pathBelow out) unit.content.toUTF8) fs () after ∧
      Wrote out [unit] fs after := by
  have place : descend (start fs (unit.pathBelow out)) (unitFront out unit) ++
      [fileName unit.source.name] = unitLocation fs out unit := by
    rw [start_pathBelow located, descend_unitFront located, List.append_assoc, unitLocation_concat]
  have begins := start_pathBelow located fs out
  have puts := writeWithParents_puts settled.toRooted (pieces_pathBelow located out)
    (fileName_named located.name) (pathBelow_unbroken located settled.unbroken)
  rw [place, begins] at puts
  obtain ⟨opened, made, ran⟩ := puts (fun stop => stop_free settled located)
    (fun member => stop_not_file settled located member _ _ rfl) (settled.directories _ _)
    unit.content.toUTF8
  have proper : unitLocation fs out unit ≠ [] := by
    simp [unitLocation_concat]
  refine ⟨_, ran, put_settled settled located made _, made.workdir, ?_, ?_, ?_⟩
  · simp [node?_put opened proper]
  · simp only [List.mem_singleton, forall_eq]
    intro location apart bytes
    rw [node?_put opened proper, if_neg apart]
    exact made.file_iff location bytes
  · intro held
    exact absurd (held unit (by simp)) stale

/-- Writing a unit's file replaces it just when it has to. -/
theorem write_unit (settled : Settled fs out) (located : Located unit) :
    ∃ after, Succeeds (writeText (unit.pathBelow out) unit.content .ifChanged) fs
      (fate fs out unit) after ∧ Wrote out [unit] fs after := by
  by_cases same : fs.node? (unitLocation fs out unit) = some (.file unit.content.toUTF8)
  · refine ⟨fs, ?_, settled, rfl, by simpa using same, fun _ _ _ => .rfl, fun _ => rfl⟩
    rw [fate, if_pos same]
    exact writeText_same ((readBytes_pathBelow settled located).mpr same)
  · obtain ⟨after, ran, wrote⟩ := put_unit settled located same
    have anew := writeAnew_succeeds ran
    refine ⟨after, ?_, wrote⟩
    rw [fate, if_neg same]
    cases found : fs.pathExists (unit.pathBelow out) with
    | false => exact writeText_absent found anew
    | true =>
      obtain ⟨text, held⟩ := (pathExists_pathBelow settled located).mp found
      refine writeText_differs ((readBytes_pathBelow settled located).mpr held) ?_ anew
      rintro rfl
      exact same held

private theorem Wrote.nil (settled : Settled fs out) : Wrote out [] fs fs :=
  ⟨settled, rfl, by simp, fun _ _ _ => .rfl, fun _ => rfl⟩

theorem unitLocation_eq {after : FileSystem} (same : after.workdir = fs.workdir) :
    unitLocation after out unit = unitLocation fs out unit := by
  rw [unitLocation, unitLocation, directory_eq same]

/-- Units of different declarations go to different locations. -/
theorem unitLocation_apart {other : GeneratedUnit} (apart : unit.source ≠ other.source) :
    unitLocation fs out unit ≠ unitLocation fs out other := by
  intro same
  exact apart (unitNames_injective (List.append_cancel_left same))

/-- Writing one unit's file leaves the fate of any other one as it was, so fates
can be told from the start of a run. -/
theorem Wrote.keeps_fate {after : FileSystem} {other : GeneratedUnit}
    (wrote : Wrote out [unit] fs after) (apart : other.source ≠ unit.source) :
    fate after out other = fate fs out other := by
  have kept := wrote.kept (unitLocation fs out other)
    (by simpa using unitLocation_apart apart) other.content.toUTF8
  unfold fate
  rw [unitLocation_eq wrote.workdir]
  simp only [kept]

private theorem Wrote.cons {before middle after : FileSystem} {units : List GeneratedUnit}
    (first : Wrote out [unit] before middle) (others : Wrote out units middle after)
    (apart : ∀ other ∈ units, other.source ≠ unit.source) :
    Wrote out (unit :: units) before after := by
  have places : ∀ other, unitLocation middle out other = unitLocation before out other :=
    fun other => unitLocation_eq first.workdir
  refine ⟨others.settled, others.workdir.trans first.workdir, ?_, ?_, ?_⟩
  · refine List.forall_mem_cons.mpr ⟨?_, ?_⟩
    · have own := first.held unit (by simp)
      refine (others.kept _ ?_ _).mpr own
      intro other member
      rw [places]
      exact unitLocation_apart (apart other member).symm
    · intro other member
      rw [← places]
      exact others.held other member
  · intro location elsewhere bytes
    obtain ⟨notUnit, notOthers⟩ := List.forall_mem_cons.mp elsewhere
    rw [others.kept location (fun other member => places other ▸ notOthers other member) bytes,
      first.kept location (by simpa using notUnit) bytes]
  · intro there
    obtain ⟨unitThere, othersThere⟩ := List.forall_mem_cons.mp there
    have same := first.still (by simpa using unitThere)
    subst same
    exact others.still othersThere

private theorem succeeds_ofFiles {α : Type} {action : FileAction α} {value : α} {after : FileSystem}
    (ran : Succeeds action fs value after) : Succeeds (Run.ofFiles action) fs value after := by
  have split : (ExceptT.run (Run.ofFiles action)).run fs =
      (((ExceptT.run action).run fs).1.mapError .files, ((ExceptT.run action).run fs).2) := rfl
  rw [Succeeds, split, ran]
  rfl

private theorem directoryWriter_writes (settled : Settled fs out) (located : Located unit)
    (records : List DependencyRecord) :
    ∃ after, Succeeds (directoryWriter out unit) (fs, records) (fate fs out unit)
      (after, records ++ [⟨unit.pathBelow out, unit.dependencies⟩]) ∧ Wrote out [unit] fs after := by
  obtain ⟨after, ran, wrote⟩ := write_unit settled located
  refine ⟨after, ?_, wrote⟩
  refine succeeds_bind.mpr ⟨_, _, succeeds_onFirst (succeeds_ofFiles ran) records, ?_⟩
  exact succeeds_bind.mpr ⟨⟨⟩, _, rfl, succeeds_pure.mpr ⟨rfl, rfl⟩⟩

/-- Writing units to a settled directory comes to its end, with the fate that
each one's file had at the start. -/
theorem write_units {units : List GeneratedUnit} (settled : Settled fs out)
    (placed : Placed units) (records : List DependencyRecord) :
    ∃ after later,
      Succeeds (units.mapM fun unit => do
        let outcome ← directoryWriter out unit
        return ({ source := unit.source, path := unit.relativePath, outcome } : WrittenUnit))
        (fs, records)
        (units.map fun unit => ⟨unit.source, unit.relativePath, fate fs out unit⟩)
        (after, later) ∧ Wrote out units fs after := by
  induction units generalizing fs records with
  | nil => exact ⟨fs, records, succeeds_pure.mpr ⟨rfl, rfl⟩, .nil settled⟩
  | cons unit rest ih =>
    obtain ⟨fresh, distinct⟩ := List.nodup_cons.mp placed.distinct
    obtain ⟨located, restLocated⟩ := List.forall_mem_cons.mp placed.located
    have apart : ∀ other ∈ rest, other.source ≠ unit.source := by
      intro other member same
      exact fresh (List.mem_map.mpr ⟨other, member, same⟩)
    obtain ⟨middle, ran, first⟩ := directoryWriter_writes settled located records
    obtain ⟨after, later, others, wrote⟩ := ih first.settled ⟨distinct, restLocated⟩
      (records ++ [⟨unit.pathBelow out, unit.dependencies⟩])
    refine ⟨after, later, ?_, first.cons wrote apart⟩
    rw [List.mapM_cons, List.map_cons]
    refine succeeds_bind.mpr ⟨_, _, succeeds_bind.mpr ⟨_, _, ran, succeeds_pure.mpr ⟨rfl, rfl⟩⟩, ?_⟩
    refine succeeds_bind.mpr ⟨_, _, others, succeeds_pure.mpr ⟨?_, rfl⟩⟩
    have fates : ∀ other ∈ rest, fate middle out other = fate fs out other :=
      fun other member => first.keeps_fate (apart other member)
    rw [List.map_congr_left fun other member => by rw [fates other member]]

end TypedRoutes.OutputDirectory
