import TypedRoutes.Files.Overwrite
import TypedRoutes.Proofs.PassExecution
import TypedRoutes.Proofs.PathPieces
import TypedRoutes.Text.Utf8

/-! The tree that a file system holds. Putting a node changes one location, and
making the directories that a path leads through only adds directories on its
way, so a file can be followed through any number of such steps. -/
namespace TypedRoutes.FileTree
open Files FileSystem Path PathPieces PassExecution

/-- Only directories have anything below them. Making directories and writing
files keep this, so a path to a node can be cut anywhere and leads to a directory. -/
def TreeShaped (fs : FileSystem) : Prop :=
  ∀ location name, fs.node? (location ++ [name]) ≠ none → fs.node? location = some .directory

/-- A tree of nodes around a working directory, in which names and paths may be
of any length. No step over it can fail because something is too long. -/
structure Rooted (fs : FileSystem) : Prop where
  names : fs.nameLimit = none
  paths : fs.pathLimit = none
  nested : TreeShaped fs
  workdir : fs.node? fs.workdir = some .directory

private theorem lookup_filter (keep : Location → Bool) (nodes : List (Location × Node))
    (location : Location) :
    (nodes.filter (keep ·.1)).lookup location =
      if keep location then nodes.lookup location else none := by
  induction nodes with
  | nil => simp
  | cons entry rest ih =>
    obtain ⟨held, node⟩ := entry
    by_cases found : location = held
    · subst found
      cases kept : keep location <;> simp [kept, ih]
    · have missed : (location == held) = false := beq_eq_false_iff_ne.mpr found
      cases kept : keep held <;> simp [kept, List.lookup_cons, missed, ih]

/-- Putting a node changes what is at its location and nothing else. All other
facts about what is left where come from this one. -/
theorem node?_put (fs : FileSystem) {location : Location} (below : location ≠ []) (node : Node)
    (other : Location) :
    (fs.put location node).node? other =
      if other = location then some node else fs.node? other := by
  have others := lookup_filter (· != location) fs.nodes other
  by_cases same : other = location
  · subst same
    simp only [bne_self_eq_false, Bool.false_eq_true, ↓reduceIte] at others
    simp [node?, put, below, List.lookup_append, others]
  · simp only [bne_iff_ne, ne_eq, same, not_false_eq_true, ↓reduceIte] at others
    by_cases root : other = []
    · simp [node?, root, Ne.symm below]
    · simp [node?, put, root, same, List.lookup_append, others, List.lookup_cons,
        beq_eq_false_iff_ne.mpr same]

/-- Whatever is no directory is not the root, so a node can be put there. -/
theorem vacant_proper {fs : FileSystem} {location : Location}
    (vacant : fs.node? location ≠ some .directory) : location ≠ [] := by
  rintro rfl
  exact vacant rfl

/-- What is put where no directory is leaves all directories there, and with
them the way of every path. -/
theorem directory_put {fs : FileSystem} {location other : Location} {node : Node}
    (vacant : fs.node? location ≠ some .directory) (here : fs.node? other = some .directory) :
    (fs.put location node).node? other = some .directory := by
  rw [node?_put fs (vacant_proper vacant), if_neg]
  · exact here
  · rintro rfl
    exact vacant here

/-- Going up from a directory leads to a directory, since it is what holds the
first one. -/
theorem TreeShaped.dropLast {fs : FileSystem} (tree : TreeShaped fs) {location : Location}
    (here : fs.node? location = some .directory) :
    fs.node? location.dropLast = some .directory := by
  rcases List.eq_nil_or_concat location with rfl | ⟨above, name, rfl⟩
  · exact here
  · rw [List.concat_eq_append] at here ⊢
    rw [List.dropLast_concat]
    exact tree above name (by simp [here])

/-- A node that is put into a directory, and not in place of one, leaves a tree.
Making directories and writing files come down to such changes. -/
theorem Rooted.put {fs : FileSystem} (rooted : Rooted fs) {above : Location} {name : String}
    {node : Node} (held : fs.node? above = some .directory)
    (free : fs.node? (above ++ [name]) ≠ some .directory) :
    Rooted (fs.put (above ++ [name]) node) := by
  refine ⟨rooted.names, rooted.paths, ?_, directory_put free rooted.workdir⟩
  intro location last present
  rw [node?_put fs (by simp)] at present
  by_cases same : location ++ [last] = above ++ [name]
  · rw [(List.append_inj' same rfl).1]
    exact directory_put free held
  · rw [if_neg same] at present
    exact directory_put free (rooted.nested location last present)

private theorem Rooted.dropLast {fs : FileSystem} (rooted : Rooted fs) {location : Location}
    (here : fs.node? location = some .directory) :
    fs.node? location.dropLast = some .directory :=
  rooted.nested.dropLast here

/-- Whatever leads to a node is a directory, however far above the node it is.
-/
theorem Rooted.above {fs : FileSystem} (rooted : Rooted fs) {location : Location}
    {below : List String} (proper : below ≠ []) (present : fs.node? (location ++ below) ≠ none) :
    fs.node? location = some .directory := by
  induction below generalizing location with
  | nil => exact absurd rfl proper
  | cons name rest ih =>
    by_cases last : rest = []
    · exact rooted.nested location name (by simpa [last] using present)
    · have next : fs.node? (location ++ [name]) = some .directory :=
        ih last (by simpa using present)
      exact rooted.nested location name (by simp [next])

/-! ## Walking -/

/-- Where pieces lead, whether or not anything is there. This is what a walk
computes, without the looking that makes a walk fail. -/
def descend (location : Location) : List String → Location
  | [] => location
  | piece :: rest =>
    if isIdle piece then descend location rest
    else if piece == ".." then descend location.dropLast rest
    else descend (location ++ [piece]) rest

theorem descend_append (location : Location) (first second : List String) :
    descend location (first ++ second) = descend (descend location first) second := by
  induction first generalizing location with
  | nil => rfl
  | cons piece rest ih =>
    simp only [List.cons_append, descend]
    split
    · exact ih location
    · split
      · exact ih location.dropLast
      · exact ih (location ++ [piece])

theorem descend_named {names : List String} (named : ∀ name ∈ names, Named name)
    (location : Location) : descend location names = location ++ names := by
  induction names generalizing location with
  | nil => simp [descend]
  | cons name rest ih =>
    obtain ⟨first, others⟩ := List.forall_mem_cons.mp named
    simp [descend, first.active, first.notAbove, ih others]

theorem mem_stops_start (location : Location) (pieces : List String) :
    location ∈ stops location pieces := by
  cases pieces <;> simp [stops]

theorem mem_stops_end (location : Location) (pieces : List String) :
    descend location pieces ∈ stops location pieces := by
  induction pieces generalizing location with
  | nil => simp [descend, stops]
  | cons piece rest ih =>
    simp only [descend, stops]
    split
    · exact List.mem_cons_of_mem _ (ih location)
    · split
      · exact List.mem_cons_of_mem _ (ih location.dropLast)
      · exact List.mem_cons_of_mem _ (ih (location ++ [piece]))

/-- The stops of a path are those of its front and those that its rest makes
from there on. -/
theorem mem_stops_append {stop location : Location} {first second : List String} :
    stop ∈ stops location (first ++ second) ↔
      stop ∈ stops location first ∨ stop ∈ stops (descend location first) second := by
  induction first generalizing location with
  | nil =>
    simp only [List.nil_append, stops, descend, List.mem_singleton]
    constructor
    · exact .inr
    · rintro (rfl | member)
      · exact mem_stops_start _ _
      · exact member
  | cons piece rest ih =>
    simp only [List.cons_append, stops, descend, List.mem_cons, or_assoc]
    split
    · rw [ih]
    · split
      · rw [ih]
      · rw [ih]

/-- Names lead down only, so the stops on their way are the places of their
initial parts. -/
theorem mem_stops_named {names : List String} (named : ∀ name ∈ names, Named name)
    {stop location : Location} :
    stop ∈ stops location names ↔ ∃ front, front <+: names ∧ stop = location ++ front := by
  induction names generalizing location with
  | nil => simp [stops]
  | cons name rest ih =>
    obtain ⟨first, others⟩ := List.forall_mem_cons.mp named
    simp only [stops, first.active, first.notAbove, Bool.false_eq_true, ↓reduceIte, beq_iff_eq,
      List.mem_cons, ih others]
    constructor
    · rintro (rfl | ⟨front, inside, rfl⟩)
      · exact ⟨[], by simp, by simp⟩
      · exact ⟨name :: front, by simpa using inside, by simp⟩
    · rintro ⟨front, inside, rfl⟩
      cases front with
      | nil => simp
      | cons head tail =>
        obtain ⟨rfl, within⟩ := List.cons_prefix_cons.mp inside
        exact .inr ⟨tail, within, by simp⟩

variable {fs after : FileSystem} {location destination : Location}

/-- Where one piece leads from a directory. A name is entered whether or not
there is anything of this name: what is missing shows only at the next step. -/
inductive Leads (fs : FileSystem) (location : Location) (piece : String) : Location → Prop
  | stay (idle : Path.isIdle piece = true) : Leads fs location piece location
  | up (above : piece = "..") : Leads fs location piece location.dropLast
  | down (active : Path.isIdle piece = false) (notAbove : piece ≠ "..")
      (accepted : fs.acceptsName piece = true) : Leads fs location piece (location ++ [piece])

/-- All that one step of a walk can do. It looks at the place that it starts
from, which has to be a directory, and goes where the piece leads. -/
theorem walk_cons {piece : String} {rest : List String} :
    fs.walk location (piece :: rest) = .ok destination ↔
      fs.node? location = some .directory ∧
        ∃ next, Leads fs location piece next ∧ fs.walk next rest = .ok destination := by
  constructor
  · intro arrived
    simp only [walk] at arrived
    split at arrived
    · cases arrived
    · cases arrived
    rename_i here
    refine ⟨here, ?_⟩
    split at arrived
    · rename_i idle
      exact ⟨_, .stay idle, arrived⟩
    rename_i active
    split at arrived
    · rename_i above
      exact ⟨_, .up (beq_iff_eq.mp above), arrived⟩
    rename_i notAbove
    split at arrived
    · rename_i accepted
      exact ⟨_, .down (Bool.eq_false_iff.mpr active) (by simpa using notAbove) accepted, arrived⟩
    · cases arrived
  · rintro ⟨here, next, leads, arrived⟩
    cases leads with
    | stay idle => simpa [walk, here, idle] using arrived
    | up above =>
      subst above
      simpa [walk, here, Path.isIdle] using arrived
    | down active notAbove accepted =>
      simpa [walk, here, active, notAbove, accepted] using arrived

private theorem Leads.descend_eq {piece : String} {next : Location}
    (leads : Leads fs location piece next) (rest : List String) :
    descend location (piece :: rest) = descend next rest := by
  cases leads with
  | stay idle => simp [descend, idle]
  | up above =>
    subst above
    rfl
  | down active notAbove accepted => simp [descend, active, notAbove]

/-- A walk that arrives anywhere arrives where its pieces lead, as nothing is at
a place that changes the direction. -/
theorem walk_descend {pieces : List String} (arrived : fs.walk location pieces = .ok destination) :
    destination = descend location pieces := by
  induction pieces generalizing location with
  | nil =>
    cases arrived
    rfl
  | cons piece rest ih =>
    obtain ⟨-, next, leads, onward⟩ := walk_cons.mp arrived
    rw [leads.descend_eq, ih onward]

/-- A walk can be cut anywhere: it is a walk along the front and one along the
rest. -/
theorem walk_append {front rest : List String} :
    fs.walk location (front ++ rest) = .ok destination ↔
      ∃ between, fs.walk location front = .ok between ∧ fs.walk between rest = .ok destination := by
  induction front generalizing location with
  | nil => simp [walk]
  | cons piece front ih =>
    simp only [List.cons_append, walk_cons, ih]
    constructor
    · rintro ⟨here, next, leads, between, first, second⟩
      exact ⟨between, ⟨here, next, leads, first⟩, second⟩
    · rintro ⟨between, ⟨here, next, leads, first⟩, second⟩
      exact ⟨here, next, leads, between, first, second⟩

private theorem walk_start {pieces : List String}
    (arrived : fs.walk location pieces = .ok destination)
    (here : fs.node? destination = some .directory) : fs.node? location = some .directory := by
  cases pieces with
  | nil =>
    cases arrived
    exact here
  | cons piece rest => exact (walk_cons.mp arrived).1

private theorem walk_kept (names : after.nameLimit = fs.nameLimit)
    (directories : ∀ location, fs.node? location = some .directory →
      after.node? location = some .directory) {pieces : List String}
    (arrived : fs.walk location pieces = .ok destination) :
    after.walk location pieces = .ok destination := by
  induction pieces generalizing location with
  | nil => exact arrived
  | cons piece rest ih =>
    obtain ⟨here, next, leads, onward⟩ := walk_cons.mp arrived
    refine walk_cons.mpr ⟨directories location here, next, ?_, ih onward⟩
    cases leads with
    | stay idle => exact .stay idle
    | up above => exact .up above
    | down active notAbove accepted =>
      refine .down active notAbove ?_
      rwa [acceptsName, names]

/-- A walk through directories arrives, and whatever comes last is not looked
at. So a path can be resolved to a file that does not exist yet. -/
theorem walk_through (rooted : Rooted fs) {pieces : List String} {name : String}
    (named : Named name) (through : ∀ stop ∈ stops location pieces, fs.node? stop = some .directory) :
    fs.walk location (pieces ++ [name]) = .ok (descend location pieces ++ [name]) := by
  have accepted (text : String) : fs.acceptsName text = true := by
    simp [acceptsName, rooted.names, within]
  induction pieces generalizing location with
  | nil =>
    have here := through location (mem_stops_start _ _)
    simp [walk, here, named.active, named.notAbove, accepted, descend]
  | cons piece rest ih =>
    have here := through location (mem_stops_start _ _)
    simp only [stops, List.mem_cons, forall_eq_or_imp] at through
    simp only [List.cons_append, walk, here, descend, accepted, ↓reduceIte]
    obtain ⟨-, later⟩ := through
    split
    · rename_i idle
      exact ih (by simpa [idle] using later)
    · rename_i active
      split
      · rename_i up
        exact ih (by simpa [active, up] using later)
      · rename_i down
        exact ih (by simpa [active, down] using later)

/-! ## Making directories -/

/-- Directories were made where nothing was, and nothing else has changed. It
holds of every run that makes directories, whether or not it is known where. -/
def Grown (before after : FileSystem) : Prop :=
  ∀ location, after.node? location = before.node? location ∨
    (before.node? location = none ∧ after.node? location = some .directory)

private theorem Grown.refl (fs : FileSystem) : Grown fs fs :=
  fun _ => .inl rfl

private theorem Grown.put {name : String}
    (grown : Grown (fs.put (location ++ [name]) .directory) after)
    (missing : fs.node? (location ++ [name]) = none) : Grown fs after := by
  intro other
  have nodes := grown other
  rw [node?_put fs (by simp)] at nodes
  by_cases same : other = location ++ [name]
  · subst same
    exact .inr ⟨missing, by simpa using nodes⟩
  · rwa [if_neg same] at nodes

/-- Nothing is lost: what was there before is there, a file with the same bytes.
-/
theorem Grown.keeps (grown : Grown fs after) {node : Node}
    (held : fs.node? location = some node) : after.node? location = some node := by
  rcases grown location with same | ⟨missing, -⟩
  · rw [same, held]
  · rw [held] at missing
    cases missing

/-- No file is made, changed or lost, so readers of files see nothing of it. -/
theorem Grown.file_iff (grown : Grown fs after) (location : Location) (bytes : ByteArray) :
    after.node? location = some (.file bytes) ↔ fs.node? location = some (.file bytes) := by
  rcases grown location with same | ⟨missing, there⟩
  · rw [same]
  · simp [missing, there]

private theorem makeDirectories_grown {pieces : List String}
    (ran : Succeeds (makeDirectories location pieces) fs () after) : Grown fs after := by
  induction pieces generalizing fs location with
  | nil =>
    obtain ⟨-, rfl⟩ := succeeds_pure.mp ran
    exact .refl fs
  | cons piece rest ih =>
    simp only [makeDirectories] at ran
    split at ran
    · exact ih ran
    split at ran
    · exact ih ran
    obtain ⟨current, between, got, ran⟩ := succeeds_bind.mp ran
    cases got
    split at ran
    · cases ran
    split at ran
    · exact ih ran
    · cases ran
    · rename_i missing
      obtain ⟨done, between, put, ran⟩ := succeeds_bind.mp ran
      cases put
      exact (ih ran).put missing

private theorem makeDirectories_there {pieces : List String}
    (arrived : fs.walk location pieces = .ok destination)
    (here : fs.node? destination = some .directory) :
    Succeeds (makeDirectories location pieces) fs () fs := by
  induction pieces generalizing location with
  | nil => exact succeeds_pure.mpr ⟨rfl, rfl⟩
  | cons piece rest ih =>
    obtain ⟨-, next, leads, onward⟩ := walk_cons.mp arrived
    have ran := ih onward
    cases leads with
    | stay idle => simpa only [makeDirectories, idle, ↓reduceIte] using ran
    | up above =>
      subst above
      exact ran
    | down active notAbove accepted =>
      simp only [makeDirectories, active, Bool.false_eq_true, ↓reduceIte, beq_iff_eq, notAbove]
      refine succeeds_bind.mpr ⟨fs, fs, succeeds_get fs, ?_⟩
      rw [if_neg (by simp [accepted])]
      simpa only [walk_start onward here] using ran

/-- What making the directories at some stops leaves behind: a tree again, in
which all stops are directories and only stops have been changed. -/
structure Opened (stops : List Location) (before after : FileSystem) : Prop where
  rooted : Rooted after
  workdir : after.workdir = before.workdir
  there : ∀ stop ∈ stops, after.node? stop = some .directory
  /-- Nothing is lost, and nothing but missing directories is added. -/
  grown : ∀ location, after.node? location = before.node? location ∨
    (location ∈ stops ∧ before.node? location = none ∧ after.node? location = some .directory)

theorem Rooted.accepts (rooted : Rooted fs) (name : String) : fs.acceptsName name = true := by
  simp [acceptsName, rooted.names, within]

/-- A name that leads down is entered when it is a directory, and made one when
nothing is there. Nothing else makes this step succeed, so a file in its place
ends the run. -/
theorem makeDirectories_down (rooted : Rooted fs) {piece : String} {rest : List String}
    {after : FileSystem} (active : isIdle piece = false) (down : piece ≠ "..") :
    Succeeds (makeDirectories location (piece :: rest)) fs () after ↔
      (fs.node? (location ++ [piece]) = some .directory ∧
        Succeeds (makeDirectories (location ++ [piece]) rest) fs () after) ∨
      (fs.node? (location ++ [piece]) = none ∧
        Succeeds (makeDirectories (location ++ [piece]) rest)
          (fs.put (location ++ [piece]) .directory) () after) := by
  simp only [makeDirectories, active, Bool.false_eq_true, ↓reduceIte, beq_iff_eq, down]
  rw [succeeds_bind]
  constructor
  · rintro ⟨middle, between, got, ran⟩
    cases got
    rw [if_neg (by simp [rooted.accepts])] at ran
    split at ran
    · rename_i held
      exact .inl ⟨held, ran⟩
    · cases ran
    · rename_i held
      obtain ⟨done, between, put, ran⟩ := succeeds_bind.mp ran
      cases put
      exact .inr ⟨held, ran⟩
  · intro ran
    refine ⟨fs, fs, succeeds_get fs, ?_⟩
    rw [if_neg (by simp [rooted.accepts])]
    rcases ran with ⟨held, ran⟩ | ⟨held, ran⟩
    · simpa only [held] using ran
    · simp only [held]
      exact succeeds_bind.mpr ⟨⟨⟩, _, succeeds_set fs _, ran⟩

private theorem Opened.refl {stops : List Location} (rooted : Rooted fs)
    (there : ∀ stop ∈ stops, fs.node? stop = some .directory) : Opened stops fs fs :=
  ⟨rooted, rfl, there, fun _ => .inl rfl⟩

private theorem Opened.grows {stops : List Location} {before after : FileSystem}
    (opened : Opened stops before after) : Grown before after := by
  intro location
  rcases opened.grown location with same | ⟨-, made⟩
  · exact .inl same
  · exact .inr made

theorem Opened.keeps {stops : List Location} {before after : FileSystem}
    (opened : Opened stops before after) {node : Node} (held : before.node? location = some node) :
    after.node? location = some node :=
  opened.grows.keeps held

/-- Making directories neither makes nor changes nor loses a file, at a stop or
elsewhere. -/
theorem Opened.file_iff {stops : List Location} {before after : FileSystem}
    (opened : Opened stops before after) (location : Location) (bytes : ByteArray) :
    after.node? location = some (.file bytes) ↔ before.node? location = some (.file bytes) :=
  opened.grows.file_iff location bytes

private theorem Opened.cons {stops : List Location} {before after : FileSystem}
    (opened : Opened stops before after) (here : before.node? location = some .directory) :
    Opened (location :: stops) before after := by
  refine ⟨opened.rooted, opened.workdir, ?_, ?_⟩
  · exact List.forall_mem_cons.mpr ⟨opened.keeps here, opened.there⟩
  · intro other
    rcases opened.grown other with same | ⟨member, grown⟩
    · exact .inl same
    · exact .inr ⟨List.mem_cons_of_mem _ member, grown⟩

private theorem Opened.made {stops : List Location} {before after : FileSystem} {name : String}
    (opened : Opened stops (before.put (location ++ [name]) .directory) after)
    (stop : location ++ [name] ∈ stops) (missing : before.node? (location ++ [name]) = none) :
    Opened stops before after := by
  refine ⟨opened.rooted, opened.workdir, opened.there, ?_⟩
  intro other
  by_cases same : other = location ++ [name]
  · subst same
    exact .inr ⟨stop, missing, opened.there _ stop⟩
  · have grown := opened.grown other
    rwa [node?_put before (by simp), if_neg same] at grown

/-- Whenever making directories comes to its end, they are there and little else
has changed. -/
theorem makeDirectories_opened (rooted : Rooted fs) {pieces : List String} {after : FileSystem}
    (here : fs.node? location = some .directory)
    (ran : Succeeds (makeDirectories location pieces) fs () after) :
    Opened (stops location pieces) fs after := by
  induction pieces generalizing fs location with
  | nil =>
    obtain ⟨-, rfl⟩ := succeeds_pure.mp ran
    exact .refl rooted (by simpa [stops] using here)
  | cons piece rest ih =>
    by_cases idle : isIdle piece = true
    · simp only [makeDirectories, stops, idle, ↓reduceIte] at ran ⊢
      exact (ih rooted here ran).cons here
    by_cases up : piece = ".."
    · simp only [makeDirectories, stops, up, ↓reduceIte, BEq.rfl] at ran ⊢
      exact (ih rooted (rooted.dropLast here) ran).cons here
    have active : isIdle piece = false := Bool.eq_false_iff.mpr idle
    simp only [stops, active, Bool.false_eq_true, ↓reduceIte, beq_iff_eq, up]
    rcases (makeDirectories_down rooted active up).mp ran with ⟨held, ran⟩ | ⟨held, ran⟩
    · exact (ih rooted held ran).cons here
    · have made : (fs.put (location ++ [piece]) .directory).node? (location ++ [piece]) =
          some .directory := by rw [node?_put fs (by simp), if_pos rfl]
      have opened := ih (rooted.put here (by simp [held])) made ran
      exact (opened.made (mem_stops_start _ _) held).cons here

/-- Where no file is in the way, making directories comes to its end. Nothing
else can stop it, as a tree has no limits on names. -/
theorem makeDirectories_ends (rooted : Rooted fs) {pieces : List String}
    (here : fs.node? location = some .directory)
    (free : ∀ stop ∈ stops location pieces, ∀ bytes, fs.node? stop ≠ some (.file bytes)) :
    ∃ after, Succeeds (makeDirectories location pieces) fs () after := by
  induction pieces generalizing fs location with
  | nil => exact ⟨fs, succeeds_pure.mpr ⟨rfl, rfl⟩⟩
  | cons piece rest ih =>
    have later := fun stop member => free stop (List.mem_cons_of_mem location member)
    by_cases idle : isIdle piece = true
    · simp only [makeDirectories, idle, ↓reduceIte] at later ⊢
      exact ih rooted here later
    by_cases up : piece = ".."
    · simp only [makeDirectories, up, ↓reduceIte, BEq.rfl] at later ⊢
      exact ih rooted (rooted.dropLast here) later
    have active : isIdle piece = false := Bool.eq_false_iff.mpr idle
    simp only [active, Bool.false_eq_true, ↓reduceIte, beq_iff_eq, up] at later
    cases held : fs.node? (location ++ [piece]) with
    | some node =>
      cases node with
      | file bytes => exact absurd held (later _ (mem_stops_start _ _) bytes)
      | directory =>
        obtain ⟨after, ran⟩ := ih rooted held later
        exact ⟨after, (makeDirectories_down rooted active up).mpr (.inl ⟨held, ran⟩)⟩
    | none =>
      have put := node?_put fs (by simp : location ++ [piece] ≠ []) .directory
      -- The new directory is itself a stop, so it must not count as a file there.
      have freed : ∀ stop ∈ stops (location ++ [piece]) rest, ∀ bytes,
          (fs.put (location ++ [piece]) .directory).node? stop ≠ some (.file bytes) := by
        intro stop member bytes
        rw [put]
        split
        · simp
        · exact later stop member bytes
      obtain ⟨after, ran⟩ := ih (rooted.put here (by simp [held])) (by rw [put, if_pos rfl]) freed
      exact ⟨after, (makeDirectories_down rooted active up).mpr (.inr ⟨held, ran⟩)⟩

/-- Together: where no file is in the way the directories can be made, and then
they are there. -/
theorem makeDirectories_opens (rooted : Rooted fs) {pieces : List String}
    (here : fs.node? location = some .directory)
    (free : ∀ stop ∈ stops location pieces, ∀ bytes, fs.node? stop ≠ some (.file bytes)) :
    ∃ after, Succeeds (makeDirectories location pieces) fs () after ∧
      Opened (stops location pieces) fs after := by
  obtain ⟨after, ran⟩ := makeDirectories_ends rooted here free
  exact ⟨after, ran, makeDirectories_opened rooted here ran⟩

/-! ## Directories of a path -/

private theorem makeDirectories_active (location : Location) (pieces : List String) :
    makeDirectories location (pieces.filter (!isIdle ·)) = makeDirectories location pieces := by
  induction pieces generalizing location with
  | nil => rfl
  | cons piece rest ih =>
    by_cases idle : isIdle piece = true
    · simp [idle, makeDirectories, ih]
    · simp only [idle, Bool.not_false, List.filter_cons_of_pos, makeDirectories, ih,
        Bool.false_eq_true, ↓reduceIte]

/-- Where resolving a path starts: at the root for an absolute path, else at the
working directory. -/
def start (fs : FileSystem) (path : String) : Location :=
  if isAbsolute path then [] else fs.workdir

theorem Rooted.start (rooted : Rooted fs) (path : String) :
    fs.node? (start fs path) = some .directory := by
  unfold FileTree.start
  split
  · rfl
  · exact rooted.workdir

/-- A path that is neither empty nor broken by a null character is resolved from
its start, by its pieces. -/
theorem Rooted.origin (rooted : Rooted fs) {path : String} (nonempty : path ≠ "")
    (unbroken : '\x00' ∉ path.toList) :
    fs.origin path = .ok (FileTree.start fs path, pieces path) := by
  simp [FileSystem.origin, nonempty, acceptsPath, rooted.paths, within, unbroken, FileTree.start]

variable {path : String}

/-- A path is resolved when it is accepted as such and a walk along its pieces
arrives. -/
theorem resolve_ok : fs.resolve path = .ok destination ↔
    path ≠ "" ∧ fs.acceptsPath path = true ∧
      fs.walk (start fs path) (Path.pieces path) = .ok destination := by
  unfold resolve origin
  by_cases empty : path = ""
  · simp [empty, bind, Except.bind]
  · cases accepted : fs.acceptsPath path <;> simp [empty, bind, Except.bind, start]

/-- Paths lead where they led when something is put where no directory is. A new
file can stand at the end of a path but not change its way. -/
theorem resolve_put {node : Node} (vacant : fs.node? location ≠ some .directory)
    (resolved : fs.resolve path = .ok destination) :
    (fs.put location node).resolve path = .ok destination := by
  obtain ⟨nonempty, accepted, arrived⟩ := resolve_ok.mp resolved
  exact resolve_ok.mpr ⟨nonempty, accepted,
    @walk_kept fs (fs.put location node) _ _ rfl (fun _ => directory_put vacant) _ arrived⟩

/-- Whatever a run that makes a directory has come across, it has made
directories and done nothing else. -/
theorem createDirectory_grown (ran : Succeeds (createDirectory path) fs () after) :
    Grown fs after := by
  simp only [createDirectory] at ran
  split at ran
  · obtain ⟨-, rfl⟩ := succeeds_pure.mp ran
    exact .refl fs
  obtain ⟨current, between, got, ran⟩ := succeeds_bind.mp ran
  cases got
  split at ran
  · cases ran
  split at ran
  · obtain ⟨done, between, made, ran⟩ := succeeds_bind.mp ran
    obtain ⟨current, between, got, ran⟩ := succeeds_bind.mp ran
    cases got
    split at ran
    · cases ran
    · obtain ⟨-, rfl⟩ := succeeds_pure.mp ran
      exact makeDirectories_grown made
  · exact makeDirectories_grown ran

/-- What is accepted as a path is accepted up to any point, so the parents of an
accepted path are accepted too. -/
theorem acceptsPath_append {rest : String} (accepted : fs.acceptsPath (path ++ rest) = true) :
    fs.acceptsPath path = true := by
  simp only [acceptsPath, within, Bool.and_eq_true, Option.all_eq_true, decide_eq_true_eq,
    String.utf8ByteSize_append, String.toList_append, List.contains_eq_mem, List.mem_append,
    Bool.not_eq_true', decide_eq_false_iff_not, not_or] at accepted ⊢
  obtain ⟨short, unbroken, -⟩ := accepted
  refine ⟨fun limit bound => ?_, unbroken⟩
  have whole := short limit bound
  omega

/-- Making a parent whose directories are all there changes nothing. A second
write to the same place finds them like this. -/
theorem createDirectory_there {front : List String} {parent : String}
    (accepted : fs.acceptsPath parent = true) (above : Above path front parent)
    (arrived : fs.walk (start fs path) front = .ok destination)
    (here : fs.node? destination = some .directory) :
    Succeeds (createDirectory parent) fs () fs := by
  have same : start fs parent = start fs path := by
    rw [start, start, above.absolute]
  have origin : fs.origin parent = .ok (start fs parent, Path.pieces parent) := by
    simp [FileSystem.origin, above.nonempty, accepted, start]
  have ran : Succeeds (makeDirectories (start fs parent) (Path.pieces parent)) fs () fs := by
    rw [← makeDirectories_active, above.active, makeDirectories_active, same]
    exact makeDirectories_there arrived here
  simp only [createDirectory, beq_iff_eq, above.nonempty, ↓reduceIte]
  refine succeeds_bind.mpr ⟨fs, fs, succeeds_get fs, ?_⟩
  simp only [origin]
  by_cases dot : Path.endsInDot parent = true
  · obtain rfl := above.dot dot
    have directory : fs.node? (start fs ".") = some .directory := same ▸ walk_start arrived here
    have resolved : fs.resolve "." = .ok (start fs ".") :=
      resolve_ok.mpr ⟨by decide, accepted, walk_cons.mpr ⟨directory, _, .stay rfl, rfl⟩⟩
    rw [if_pos dot]
    refine succeeds_bind.mpr ⟨(), fs, succeeds_pure.mpr ⟨rfl, rfl⟩, ?_⟩
    refine succeeds_bind.mpr ⟨fs, fs, succeeds_get fs, ?_⟩
    simp only [resolved]
    exact succeeds_pure.mpr ⟨rfl, rfl⟩
  · rw [if_neg dot]
    exact ran

/-- A piece that leads down to an entry names it, since an accepted path has no
null character and its pieces no separator. -/
theorem named_piece {piece : String} (accepted : fs.acceptsPath path = true)
    (member : piece ∈ Path.pieces path) (active : Path.isIdle piece = false)
    (notAbove : piece ≠ "..") : Named piece := by
  simp only [Path.isIdle, Bool.or_eq_false_iff, beq_eq_false_iff_ne] at active
  refine ⟨active.1, active.2, notAbove, piece_undivided member, fun broken => ?_⟩
  have held := ((mem_pieces path '\x00').mp ⟨piece, member, broken⟩).1
  simp [acceptsPath, held] at accepted

private theorem createDirectory_above (rooted : Rooted fs) {parent : String} {front : List String}
    (above : Above path front parent) (unbroken : '\x00' ∉ path.toList)
    (free : ∀ stop ∈ stops (start fs path) front, ∀ bytes, fs.node? stop ≠ some (.file bytes)) :
    ∃ after, Succeeds (createDirectory parent) fs () after ∧
      Opened (stops (start fs path) front) fs after := by
  have same : start fs parent = start fs path := by
    rw [start, start, above.absolute]
  have origin := rooted.origin above.nonempty (above.unbroken unbroken)
  obtain ⟨after, ran, opened⟩ := makeDirectories_opens rooted (rooted.start path) free
  rw [← makeDirectories_active, ← above.active, makeDirectories_active, ← same] at ran
  refine ⟨after, ?_, opened⟩
  simp only [createDirectory, beq_iff_eq, above.nonempty, ↓reduceIte]
  refine succeeds_bind.mpr ⟨fs, fs, succeeds_get fs, ?_⟩
  simp only [origin]
  by_cases dot : endsInDot parent = true
  · obtain rfl := above.dot dot
    have done : Succeeds (makeDirectories (start fs ".") []) fs () after := ran
    obtain ⟨-, rfl⟩ := succeeds_pure.mp done
    have arrived : fs.resolve "." = .ok (start fs ".") := by
      have here := rooted.start "."
      have split : pieces "." = ["."] := by decide
      simp only [FileSystem.resolve, origin, split]
      simp [bind, Except.bind, walk, here, isIdle]
    rw [if_pos dot]
    refine succeeds_bind.mpr ⟨(), fs, done, ?_⟩
    refine succeeds_bind.mpr ⟨fs, fs, succeeds_get fs, ?_⟩
    simp only [arrived]
    exact done
  · rw [if_neg dot]
    exact ran

/-- The directories above a path are there or can be made, and from then on the
path leads to a place with no directory in it. With a way, any write to the path
succeeds. -/
structure Way (fs opened : FileSystem) (path : String) (place : Location) : Prop where
  above : ∃ parent, Path.parent? path = some parent ∧
    Succeeds (createDirectory parent) fs () opened
  leads : opened.resolve path = .ok place
  vacant : opened.node? place ≠ some .directory

/-- There is a way where no file is in it and no directory at its end. Both
conditions are on the tree alone, with no run in them. -/
theorem Rooted.way (rooted : Rooted fs) {name : String} {front : List String}
    (split : pieces path = front ++ [name]) (named : Named name) (unbroken : '\x00' ∉ path.toList)
    (free : ∀ stop ∈ stops (FileTree.start fs path) front, ∀ bytes,
      fs.node? stop ≠ some (.file bytes))
    (apart : descend (FileTree.start fs path) front ++ [name] ∉
      stops (FileTree.start fs path) front)
    (vacant : fs.node? (descend (FileTree.start fs path) front ++ [name]) ≠ some .directory) :
    ∃ opened, Opened (stops (FileTree.start fs path) front) fs opened ∧
      Way fs opened path (descend (FileTree.start fs path) front ++ [name]) := by
  have nonempty := named_nonempty split named
  obtain ⟨parent, found, above⟩ := parent_above split named
  obtain ⟨after, ran, opened⟩ : ∃ after, Succeeds (createDirectory parent) fs () after ∧
      Opened (stops (FileTree.start fs path) front) fs after := by
    rcases above with ⟨rfl, rfl⟩ | above
    · have here := rooted.start path
      exact ⟨fs, succeeds_pure.mpr ⟨rfl, rfl⟩, .refl rooted (by simpa [stops] using here)⟩
    · exact createDirectory_above rooted above unbroken free
  refine ⟨after, opened, ⟨parent, found, ran⟩, ?_, ?_⟩
  · have begins : FileTree.start after path = FileTree.start fs path := by
      rw [FileTree.start, FileTree.start, opened.workdir]
    simp only [FileSystem.resolve, opened.rooted.origin nonempty unbroken, split, begins]
    exact walk_through opened.rooted named opened.there
  · rcases opened.grown (descend (FileTree.start fs path) front ++ [name]) with
      same | ⟨member, -, -⟩
    · rwa [same]
    · exact absurd member apart

/-- Along a way any bytes can be written, and afterwards they are all that has
changed since the directories were made. -/
theorem Way.puts {opened : FileSystem} (way : Way fs opened path location) (bytes : ByteArray) :
    Succeeds (writeWithParents path bytes) fs () (opened.put location (.file bytes)) := by
  obtain ⟨⟨parent, found, made⟩, leads, vacant⟩ := way
  simp only [writeWithParents, found]
  refine succeeds_bind.mpr ⟨(), opened, made, ?_⟩
  refine succeeds_bind.mpr ⟨opened, opened, succeeds_get opened, ?_⟩
  simp only [leads]
  exact succeeds_set opened _

/-- A file can be put where a path leads when no file is in the way and no
directory in its place. Everything else is as the directories have left it. -/
theorem writeWithParents_puts (rooted : Rooted fs) {name : String} {front : List String}
    (split : pieces path = front ++ [name]) (named : Named name) (unbroken : '\x00' ∉ path.toList)
    (free : ∀ stop ∈ stops (start fs path) front, ∀ bytes, fs.node? stop ≠ some (.file bytes))
    (apart : descend (start fs path) front ++ [name] ∉ stops (start fs path) front)
    (vacant : fs.node? (descend (start fs path) front ++ [name]) ≠ some .directory)
    (bytes : ByteArray) :
    ∃ opened, Opened (stops (start fs path) front) fs opened ∧
      Succeeds (writeWithParents path bytes) fs ()
        (opened.put (descend (start fs path) front ++ [name]) (.file bytes)) := by
  obtain ⟨opened, made, way⟩ := rooted.way split named unbroken free apart vacant
  exact ⟨opened, made, way.puts bytes⟩

/-! ## Reading -/

/-- Bytes can be read from a path exactly when it is resolved to a file that
holds them. -/
theorem readBytes_ok {bytes : ByteArray} :
    fs.readBytes path = .ok bytes ↔
      ∃ location, fs.resolve path = .ok location ∧ fs.node? location = some (.file bytes) := by
  unfold readBytes
  cases arrived : fs.resolve path with
  | error failure => simp [bind, Except.bind]
  | ok location =>
    simp only [bind, Except.bind, Except.ok.injEq, exists_eq_left']
    split <;> simp_all

private theorem readText_text {text : String} (held : fs.readBytes path = .ok text.toUTF8) :
    fs.readText path = .ok text := by
  simp only [readText, held, bind, Except.bind, Text.fromUTF8?_toUTF8]

private theorem readText_notText {bytes : ByteArray} (held : fs.readBytes path = .ok bytes)
    (textless : ¬ ∃ current : String, current.toUTF8 = bytes) :
    fs.readText path = .error .notText := by
  have unread : String.fromUTF8? bytes = none := by
    refine Option.eq_none_iff_forall_ne_some.mpr fun current read => ?_
    exact textless ⟨current, Text.fromUTF8?_eq_some.mp read⟩
  simp [readText, held, unread, bind, Except.bind]

theorem pathExists_held {bytes : ByteArray} (held : fs.readBytes path = .ok bytes) :
    fs.pathExists path = true := by
  obtain ⟨place, resolved, node⟩ := readBytes_ok.mp held
  simp [pathExists, resolved, node]

/-! ## Writing text -/

/-- Writing text with no look at what is there. It is what every policy comes
down to once it has decided to write. -/
def writeAnew (path text : String) : FileAction WriteOutcome := do
  writeWithParents path text.toUTF8
  return .written

/-- What is there matters only under `ifChanged`, and then as text: bytes that
are no text end the run before anything is written. -/
theorem writeText_run {text : String} (policy : Overwrite) :
    (ExceptT.run (writeText path text policy)).run fs =
      if policy = .ifChanged ∧ fs.pathExists path = true then
        match fs.readText path with
        | .error failure => (.error failure, fs)
        | .ok current =>
          if current = text then (.ok .unchanged, fs)
          else (ExceptT.run (writeAnew path text)).run fs
      else (ExceptT.run (writeAnew path text)).run fs := by
  rw [writeText, run_bind]
  have got : (ExceptT.run (get : ExceptT FileError (StateM FileSystem) FileSystem)).run fs =
      (.ok fs, fs) := rfl
  simp only [got]
  split
  · cases fs.readText path with
    | error failure => rfl
    | ok current =>
      by_cases same : current = text
      · simp only [same, ↓reduceIte]
        rfl
      · simp only [same, ↓reduceIte]
        rfl
  · rfl

section WritingText
variable {text : String}

theorem writeAnew_succeeds (ran : Succeeds (writeWithParents path text.toUTF8) fs () after) :
    Succeeds (writeAnew path text) fs .written after :=
  succeeds_bind.mpr ⟨(), after, ran, succeeds_pure.mpr ⟨rfl, rfl⟩⟩

theorem writeText_always (ran : Succeeds (writeAnew path text) fs .written after) :
    Succeeds (writeText path text .always) fs .written after := by
  rwa [Succeeds, writeText_run, if_neg (by simp)]

/-- Where nothing is, there is nothing to compare with, and both policies write.
-/
theorem writeText_absent (absent : fs.pathExists path = false)
    (ran : Succeeds (writeAnew path text) fs .written after) :
    Succeeds (writeText path text .ifChanged) fs .written after := by
  rwa [Succeeds, writeText_run, if_neg (by simp [absent])]

/-- Equal text is left alone, without so much as a new directory. -/
theorem writeText_same (held : fs.readBytes path = .ok text.toUTF8) :
    Succeeds (writeText path text .ifChanged) fs .unchanged fs := by
  rw [Succeeds, writeText_run, if_pos ⟨rfl, pathExists_held held⟩, readText_text held]
  simp only [↓reduceIte]

/-- A text that differs is replaced, whatever the difference is. -/
theorem writeText_differs {current : String} (held : fs.readBytes path = .ok current.toUTF8)
    (differs : current ≠ text) (ran : Succeeds (writeAnew path text) fs .written after) :
    Succeeds (writeText path text .ifChanged) fs .written after := by
  rw [Succeeds, writeText_run, if_pos ⟨rfl, pathExists_held held⟩, readText_text held]
  simp only [differs, ↓reduceIte]
  exact ran

/-- Bytes that are no text make the comparison fail, and the file keeps them.
The other policy would have replaced them. -/
theorem writeText_textless {bytes : ByteArray} (held : fs.readBytes path = .ok bytes)
    (textless : ¬ ∃ current : String, current.toUTF8 = bytes) :
    (ExceptT.run (writeText path text .ifChanged)).run fs = (.error .notText, fs) := by
  rw [writeText_run, if_pos ⟨rfl, pathExists_held held⟩, readText_notText held textless]

end WritingText

/-! ## Fresh file systems -/

/-- In a fresh file system there is only what leads to the working directory, so
nothing is in the way of anything. -/
theorem node?_empty (workdir location : Location) :
    (FileSystem.empty workdir none none).node? location =
      if location <+: workdir then some .directory else none := by
  by_cases root : location = []
  · simp [root, node?]
  simp only [node?, FileSystem.empty, List.isEmpty_iff, root, ↓reduceIte]
  cases found : ((List.range workdir.length).map fun n =>
      (workdir.take (n + 1), Node.directory)).lookup location with
  | none =>
    rw [if_neg]
    intro leads
    have absent := List.lookup_eq_none_iff.mp found
    have some : 0 < location.length := List.length_pos_iff.mpr root
    have short := leads.length_le
    have entry : (workdir.take (location.length - 1 + 1), Node.directory) ∈
        (List.range workdir.length).map fun n => (workdir.take (n + 1), Node.directory) :=
      List.mem_map.mpr ⟨location.length - 1, List.mem_range.mpr (by omega), rfl⟩
    have apart := absent _ entry
    rw [Nat.sub_add_cancel some, ← List.prefix_iff_eq_take.mp leads] at apart
    simp at apart
  | some node =>
    obtain ⟨before, after, split, -⟩ := List.lookup_eq_some_iff.mp found
    have member : (location, node) ∈ (List.range workdir.length).map fun n =>
        (workdir.take (n + 1), Node.directory) := by simp [split]
    obtain ⟨n, -, same⟩ := List.mem_map.mp member
    cases same
    rw [if_pos (List.take_prefix _ _)]

/-- A fresh file system without limits is a tree. -/
theorem empty_rooted (workdir : Location) : Rooted (.empty workdir none none) := by
  have found := node?_empty workdir
  refine ⟨rfl, rfl, ?_, ?_⟩
  · intro location name present
    rw [found] at present ⊢
    by_cases leads : location ++ [name] <+: workdir
    · rw [if_pos ((List.prefix_append location [name]).trans leads)]
    · exact absurd (if_neg leads) present
  · exact (found workdir).trans (if_pos List.prefix_rfl)

end TypedRoutes.FileTree
