import TypedRoutes.Proofs.FileTree

/-! Writing text to a path that anything may be at. Where nothing is, the file is
made with the directories above it, and where a file is, it is replaced. Under
`ifChanged` the old bytes are read as text first, so a file that holds no text
at all is refused, although it differs from what is written. -/
namespace TypedRoutes.ConditionalWrites
open Files FileSystem PathPieces PassExecution FileTree

/-- What a path names where a file can be: the bytes of one, or nothing. A path
in which a file or a directory is in the way names neither. -/
inductive Names (fs : FileSystem) (path : String) : Option ByteArray → Prop
  | file {bytes : ByteArray} (held : fs.readBytes path = .ok bytes) : Names fs path (some bytes)
  | nothing {opened : FileSystem} {place : Location} (absent : fs.pathExists path = false)
      (way : Way fs opened path place) : Names fs path none

/-- What writing bytes to a path leaves behind: they can be read there, every
other file is as it was, and no directory is lost. -/
structure Stored (fs : FileSystem) (path : String) (bytes : ByteArray) (after : FileSystem) :
    Prop where
  held : after.readBytes path = .ok bytes
  /-- No other file is made, changed or lost. -/
  others : ∃ place, after.resolve path = .ok place ∧ ∀ other, other ≠ place → ∀ content,
    after.node? other = some (.file content) ↔ fs.node? other = some (.file content)
  directories : ∀ location, fs.node? location = some .directory →
    after.node? location = some .directory

/-- What a path names can be compared with a text: nothing, or bytes of a
text. -/
def Comparable (old : Option ByteArray) : Prop :=
  ∀ bytes, old = some bytes → ∃ current : String, current.toUTF8 = bytes

/-- What becomes of a path under both policies. Under `ifChanged` a run can end
without a write for two reasons, and only one of them is that nothing has
changed. -/
structure Rewrites (fs : FileSystem) (path text : String) (old : Option ByteArray) : Prop where
  /-- Replacing whatever is there asks nothing of it. -/
  always : ∃ after, Succeeds (writeText path text .always) fs .written after ∧
    Stored fs path text.toUTF8 after
  ifChanged : Comparable old →
    ∃ outcome after, Succeeds (writeText path text .ifChanged) fs outcome after ∧
      Stored fs path text.toUTF8 after ∧
      (outcome = .unchanged ↔ old = some text.toUTF8) ∧ (outcome = .unchanged → after = fs)
  /-- Other bytes differ from every text, but they are not replaced. -/
  refused : ¬ Comparable old →
    (ExceptT.run (writeText path text .ifChanged)).run fs = (.error .notText, fs)

variable {fs opened after : FileSystem} {path text : String} {bytes : ByteArray}
  {location place : Location}

/-! ## Writing along a way -/

/-- A path to a file goes through directories to a name, so all that is above it
is there. The other last pieces, idle ones and `..`, lead to directories. -/
theorem file_way (tree : TreeShaped fs) (held : fs.readBytes path = .ok bytes) :
    ∃ place, Way fs fs path place ∧ fs.node? place = some (.file bytes) := by
  obtain ⟨place, resolved, node⟩ := readBytes_ok.mp held
  refine ⟨place, ⟨?_, resolved, by simp [node]⟩, node⟩
  obtain ⟨nonempty, accepted, arrived⟩ := resolve_ok.mp resolved
  obtain ⟨front, name, split⟩ := List.eq_nil_or_concat (Path.pieces path) |>.resolve_left
    (pieces_ne_nil path)
  rw [List.concat_eq_append] at split
  rw [split] at arrived
  obtain ⟨between, walked, last⟩ := walk_append.mp arrived
  obtain ⟨here, next, leads, ended⟩ := walk_cons.mp last
  cases ended
  cases leads with
  | stay idle => simp [here] at node
  | up above => simp [tree.dropLast here] at node
  | down active notAbove namable =>
    have named := named_piece accepted (by simp [split]) active notAbove
    obtain ⟨parent, found, above⟩ := parent_above split named
    refine ⟨parent, found, ?_⟩
    rcases above with ⟨-, rfl⟩ | above
    · exact succeeds_pure.mpr ⟨rfl, rfl⟩
    · obtain ⟨rest, whole⟩ := parent_begins found
      rw [whole] at accepted
      exact createDirectory_there (acceptsPath_append accepted) above walked here

/-- Along its way any bytes can be written to a path, and no other file is lost
on it. -/
theorem way_stores (way : Way fs opened path place) (bytes : ByteArray) :
    ∃ after, Succeeds (writeWithParents path bytes) fs () after ∧ Stored fs path bytes after := by
  have ran := way.puts bytes
  obtain ⟨⟨parent, -, made⟩, leads, vacant⟩ := way
  have grown := createDirectory_grown made
  have node := node?_put opened (vacant_proper vacant) (.file bytes)
  have resolved : (opened.put place (.file bytes)).resolve path = .ok place :=
    resolve_put vacant leads
  refine ⟨opened.put place (.file bytes), ran, ?_, ⟨place, resolved, ?_⟩, ?_⟩
  · exact readBytes_ok.mpr ⟨place, resolved, by rw [node, if_pos rfl]⟩
  · intro other apart content
    rw [node, if_neg apart]
    exact grown.file_iff other content
  · intro location here
    exact directory_put vacant (grown.keeps here)

private theorem way_anew (way : Way fs opened path place) (text : String) :
    ∃ after, Succeeds (writeAnew path text) fs .written after ∧
      Stored fs path text.toUTF8 after := by
  obtain ⟨after, ran, stored⟩ := way_stores way text.toUTF8
  exact ⟨after, writeAnew_succeeds ran, stored⟩

private theorem Stored.refl (held : fs.readBytes path = .ok bytes) : Stored fs path bytes fs := by
  obtain ⟨place, resolved, -⟩ := readBytes_ok.mp held
  exact ⟨held, ⟨place, resolved, fun _ _ _ => .rfl⟩, fun _ => id⟩

/-- Wherever a file can be, text is written in place of nothing and of any other
text, and left alone where it is already. Only under `always` is it written in
place of bytes that are no text. -/
theorem text_replaced {old : Option ByteArray} (tree : TreeShaped fs) (names : Names fs path old)
    (text : String) : Rewrites fs path text old := by
  cases names with
  | nothing absent way =>
    obtain ⟨after, ran, stored⟩ := way_anew way text
    have written := writeText_absent absent ran
    refine ⟨⟨after, writeText_always ran, stored⟩, fun _ => ?_, fun incomparable => ?_⟩
    · exact ⟨.written, after, written, stored, by simp, by simp⟩
    · refine absurd ?_ incomparable
      intro bytes same
      cases same
  | @file bytes held =>
    obtain ⟨place, way, node⟩ := file_way tree held
    obtain ⟨after, ran, stored⟩ := way_anew way text
    refine ⟨⟨after, writeText_always ran, stored⟩, fun comparable => ?_, fun incomparable => ?_⟩
    · obtain ⟨current, rfl⟩ := comparable bytes rfl
      by_cases same : current = text
      · subst same
        exact ⟨.unchanged, fs, writeText_same held, .refl held, by simp, fun _ => rfl⟩
      · have differs : ¬ some current.toUTF8 = some text.toUTF8 := by
          rw [Option.some.injEq]
          exact fun equal => same (String.toByteArray_inj.mp equal)
        exact ⟨.written, after, writeText_differs held same ran, stored,
          iff_of_false (by simp) differs, by simp⟩
    · refine writeText_textless held ?_
      rintro ⟨current, rfl⟩
      refine incomparable fun content same => ⟨current, ?_⟩
      exact Option.some.inj same

/-- A working directory that holds one file, with any bytes in it. -/
def withFile (bytes : ByteArray) : FileSystem :=
  (FileSystem.empty ["work"] none none).put ["work", "A.kt"] (.file bytes)

private theorem withFile_rooted (bytes : ByteArray) : Rooted (withFile bytes) := by
  have found := node?_empty ["work"]
  refine @Rooted.put _ (empty_rooted ["work"]) ["work"] "A.kt" _ ?_ ?_
  · rw [found, if_pos List.prefix_rfl]
  · rw [found, if_neg (by decide)]
    simp

private theorem withFile_node (bytes : ByteArray) (location : Location) :
    (withFile bytes).node? location =
      if location = ["work", "A.kt"] then some (.file bytes)
      else if location <+: ["work"] then some .directory else none := by
  rw [withFile, node?_put _ (by simp), node?_empty]

private theorem withFile_names (bytes : ByteArray) :
    Names (withFile bytes) "A.kt" (some bytes) := by
  have rooted := withFile_rooted bytes
  have origin := rooted.origin (by decide : "A.kt" ≠ "") (by decide)
  have begins : start (withFile bytes) "A.kt" = ["work"] := if_neg (by decide)
  have split : Path.pieces "A.kt" = ["A.kt"] := by decide
  have walked : (withFile bytes).walk ["work"] ["A.kt"] = .ok ["work", "A.kt"] :=
    walk_cons.mpr ⟨by simp [withFile_node], _,
      .down (by decide) (by decide) (rooted.accepts "A.kt"), rfl⟩
  have resolved : (withFile bytes).resolve "A.kt" = .ok ["work", "A.kt"] := by
    simp only [resolve, origin, begins, split, walked, bind, Except.bind]
  exact .file (readBytes_ok.mpr ⟨_, resolved, by simp [withFile_node]⟩)

private theorem withFile_nothing (bytes : ByteArray) :
    Names (withFile bytes) "com/app/B.kt" none := by
  have node := withFile_node bytes
  have rooted := withFile_rooted bytes
  have begins : start (withFile bytes) "com/app/B.kt" = ["work"] := if_neg (by decide)
  have split : Path.pieces "com/app/B.kt" = ["com", "app"] ++ ["B.kt"] := by decide
  have unbroken : '\x00' ∉ "com/app/B.kt".toList := by decide
  have passed : stops ["work"] ["com", "app"] =
      [["work"], ["work", "com"], ["work", "com", "app"]] := by decide
  have place : descend ["work"] ["com", "app"] ++ ["B.kt"] =
      ["work", "com", "app", "B.kt"] := by decide
  have named : Named "B.kt" := ⟨by decide, by decide, by decide, by decide, by decide⟩
  obtain ⟨opened, -, way⟩ := rooted.way split named unbroken (by simp [begins, passed, node])
    (by simp [begins, passed, place]) (by simp [begins, place, node])
  have absent : (withFile bytes).pathExists "com/app/B.kt" = false := by
    simp [pathExists, resolve, rooted.origin (by decide) unbroken, begins, split, walk, node,
      Path.isIdle, rooted.accepts, bind, Except.bind]
  exact .nothing absent way

theorem text_replaced_source :
    TreeShaped (withFile "object Old".toUTF8) ∧
      Names (withFile "object Old".toUTF8) "A.kt" (some "object Old".toUTF8) ∧
      Rewrites (withFile "object Old".toUTF8) "A.kt" "object New" (some "object Old".toUTF8) ∧
      Names (withFile "object Old".toUTF8) "com/app/B.kt" none ∧
      Rewrites (withFile "object Old".toUTF8) "com/app/B.kt" "object B" none := by
  have tree : TreeShaped (withFile "object Old".toUTF8) := (withFile_rooted _).nested
  have file := withFile_names "object Old".toUTF8
  have nothing := withFile_nothing "object Old".toUTF8
  exact ⟨tree, file, text_replaced tree file _, nothing, text_replaced tree nothing _⟩

/-- No text has a byte that begins no character, so a file of this byte is no
text. -/
theorem byte_textless : ¬ ∃ text : String, text.toUTF8 = ⟨#[255]⟩ := by
  rintro ⟨text, same⟩
  have read := Text.fromUTF8?_eq_some.mpr same
  have unread : String.fromUTF8? ⟨#[255]⟩ = none := by decide +kernel
  rw [unread] at read
  cases read

/-- A file that differs from the text is not always replaced: for bytes that are
no text the run fails, and they stay. -/
theorem textless_refused : ¬ ∀ fs path old text, TreeShaped fs → Names fs path old →
    ∃ outcome after, Succeeds (writeText path text .ifChanged) fs outcome after := by
  intro always
  have names := withFile_names ⟨#[255]⟩
  obtain ⟨outcome, after, ran⟩ := always (withFile ⟨#[255]⟩) "A.kt" _ "object New"
    (withFile_rooted _).nested names
  cases names with
  | file held =>
    rw [Succeeds, writeText_textless held byte_textless] at ran
    cases ran

end TypedRoutes.ConditionalWrites
