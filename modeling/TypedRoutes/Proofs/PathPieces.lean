import TypedRoutes.Files.Path

/-! Paths as lists of names. A path text is its pieces between separators, and
joining a relative path to another one puts its pieces behind those of the
other, whatever separators that one ends in. -/
namespace TypedRoutes.PathPieces
open Files Path

/-- A piece that names an entry of the directory it stands in. The two dotted
pieces lead elsewhere, and the empty one leads nowhere. -/
structure Named (piece : String) : Prop where
  nonempty : piece ≠ ""
  notHere : piece ≠ "."
  notAbove : piece ≠ ".."
  undivided : '/' ∉ piece.toList
  unbroken : '\x00' ∉ piece.toList

theorem Named.active {piece : String} (named : Named piece) : isIdle piece = false := by
  simp [isIdle, named.nonempty, named.notHere]

theorem pieces_ne_nil (path : String) : pieces path ≠ [] := by
  simp [pieces]

theorem pieces_undivided {path : String} (undivided : '/' ∉ path.toList) :
    pieces path = [path] := by
  simp [pieces, List.splitOn_eq_singleton undivided]

/-- A separator is where pieces are cut, and nothing on one side of it shows on
the other. -/
theorem pieces_divided (before after : String) :
    pieces (before ++ "/" ++ after) = pieces before ++ pieces after := by
  simp [pieces, List.splitOn_append_cons_self]

/-- Names that hold no separator can be read back from the path they make. -/
theorem pieces_intercalate {names : List String} (some : names ≠ [])
    (undivided : ∀ name ∈ names, '/' ∉ name.toList) :
    pieces ("/".intercalate names) = names := by
  have apart : ∀ characters ∈ names.map String.toList, '/' ∉ characters := by
    simpa using undivided
  simp only [pieces, String.toList_intercalate]
  rw [show "/".toList = ['/'] from rfl, List.splitOn_intercalate '/' apart (by simpa using some)]
  simp

theorem intercalate_pieces (path : String) : "/".intercalate (pieces path) = path := by
  apply String.toList_inj.mp
  rw [String.toList_intercalate, pieces, List.map_map]
  simp

private theorem splitOn_characters (characters : List Char) (c : Char) :
    (∃ piece ∈ characters.splitOn '/', c ∈ piece) ↔ c ∈ characters ∧ c ≠ '/' := by
  induction characters with
  | nil => simp
  | cons first rest ih =>
    rw [List.splitOn_cons_eq_if_modifyHead]
    by_cases separator : first = '/'
    · subst separator
      simp only [beq_self_eq_true, ↓reduceIte, List.mem_cons, or_and_right, exists_or,
        exists_eq_left, List.not_mem_nil, false_or, ih]
      constructor
      · exact .inr
      · rintro (⟨same, apart⟩ | inside)
        · exact absurd same apart
        · exact inside
    · simp only [beq_eq_false_iff_ne.mpr separator, Bool.false_eq_true, ↓reduceIte, List.mem_cons]
      obtain ⟨head, tail, split⟩ := List.exists_cons_of_ne_nil (List.splitOn_ne_nil '/' rest)
      rw [split] at ih ⊢
      simp only [List.mem_cons, or_and_right, exists_or, exists_eq_left] at ih
      simp only [List.modifyHead_cons, List.mem_cons, or_and_right, exists_or, exists_eq_left,
        or_assoc, ih]
      constructor
      · rintro (rfl | inside)
        · exact .inl ⟨rfl, separator⟩
        · exact .inr inside
      · rintro (⟨rfl, -⟩ | inside)
        · exact .inl rfl
        · exact .inr inside

/-- The pieces of a path hold its characters but for the separators. -/
theorem mem_pieces (path : String) (c : Char) :
    (∃ piece ∈ pieces path, c ∈ piece.toList) ↔ c ∈ path.toList ∧ c ≠ '/' := by
  rw [← splitOn_characters]
  simp only [pieces, List.mem_map]
  constructor
  · rintro ⟨-, ⟨piece, member, rfl⟩, inside⟩
    exact ⟨piece, member, by simpa using inside⟩
  · rintro ⟨piece, member, inside⟩
    exact ⟨String.ofList piece, ⟨piece, member, rfl⟩, by simpa using inside⟩

theorem piece_undivided {path piece : String} (member : piece ∈ pieces path) :
    '/' ∉ piece.toList := by
  intro divided
  exact ((mem_pieces path '/').mp ⟨piece, member, divided⟩).2 rfl

/-- The pieces of a path without the empty one behind a trailing separator. To
these the pieces of a joined path are added. -/
def stem (path : String) : List String :=
  if (pieces path).getLast? = some "" then (pieces path).dropLast else pieces path

/-- A stem differs from the pieces by nothing that names a component. -/
theorem pieces_stem (path : String) : pieces path = stem path ∨ pieces path = stem path ++ [""] := by
  unfold stem
  split
  · rename_i trailing
    obtain ⟨front, split⟩ := List.getLast?_eq_some_iff.mp trailing
    exact .inr (by rw [split, List.dropLast_concat])
  · exact .inl rfl

theorem stem_empty : stem "" = [] := by
  decide

private theorem stem_trailing (path : String) : stem (path ++ "/") = pieces path := by
  have split := pieces_divided path ""
  rw [String.append_empty, show pieces "" = [""] by decide] at split
  simp [stem, split]

private theorem stem_unterminated {path : String} (nonempty : path ≠ "")
    (unterminated : path.toList.getLast? ≠ some '/') : stem path = pieces path := by
  unfold stem
  rw [if_neg]
  intro trailing
  obtain ⟨front, split⟩ := List.getLast?_eq_some_iff.mp trailing
  have text := intercalate_pieces path
  rw [split] at text
  cases front with
  | nil => exact nonempty text.symm
  | cons first rest =>
    rw [String.intercalate_append_of_ne_nil (by simp) (by simp), String.intercalate_singleton,
      String.append_empty] at text
    apply unterminated
    rw [← text, String.toList_append]
    exact List.getLast?_concat

/-- Joining a relative path puts its pieces behind those of the base, with one
separator in between whether or not the base ends in one. -/
theorem pieces_join (base : String) {path : String} (relative : isAbsolute path = false) :
    pieces (join base path) = stem base ++ pieces path := by
  unfold join
  rw [if_neg (by simp [relative])]
  by_cases empty : base = ""
  · simp [empty, stem_empty]
  by_cases terminated : base.toList.getLast? = some '/'
  · obtain ⟨front, split⟩ := List.getLast?_eq_some_iff.mp terminated
    have text : base = String.ofList front ++ "/" := by
      apply String.toList_inj.mp
      simp [split]
    rw [if_pos (by simp [terminated]), text, stem_trailing, pieces_divided]
  · rw [if_neg (by simp [empty, terminated]), pieces_divided, stem_unterminated empty terminated]

/-- Only a nonempty base decides whether a joined path starts at the root. -/
theorem isAbsolute_join (base : String) {path : String} (relative : isAbsolute path = false) :
    isAbsolute (join base path) = isAbsolute base := by
  unfold join
  rw [if_neg (by simp [relative])]
  by_cases empty : base = ""
  · rw [if_pos (by simp [empty]), empty, String.empty_append, relative]
    rfl
  · have some : base.toList ≠ [] := by simpa using empty
    obtain ⟨first, rest, spelled⟩ := List.exists_cons_of_ne_nil some
    split <;> simp [isAbsolute, spelled]

private theorem named_filter {names : List String} (named : ∀ name ∈ names, Named name) :
    names.filter (!isIdle ·) = names :=
  List.filter_eq_self.mpr fun name member => by simp [(named name member).active]

/-- Whether a path starts at the root shows in its pieces: the first of several
is empty. -/
theorem isAbsolute_iff {path : String} :
    isAbsolute path = true ↔ ∃ rest, rest ≠ [] ∧ pieces path = "" :: rest := by
  constructor
  · intro absolute
    simp only [isAbsolute, beq_iff_eq, List.head?_eq_some_iff] at absolute
    obtain ⟨rest, spelled⟩ := absolute
    refine ⟨(rest.splitOn '/').map String.ofList, by simp, ?_⟩
    simp [pieces, spelled, List.splitOn_cons_eq_if_modifyHead]
  · rintro ⟨rest, some, split⟩
    have text := intercalate_pieces path
    rw [split, String.intercalate_cons_of_ne_nil some] at text
    simp [isAbsolute, ← text]

/-- A path of names is relative, as an absolute one begins with an empty
piece. -/
theorem named_relative {path : String} (named : ∀ piece ∈ pieces path, Named piece) :
    isAbsolute path = false := by
  apply Bool.eq_false_iff.mpr
  intro absolute
  obtain ⟨rest, -, split⟩ := isAbsolute_iff.mp absolute
  exact (named "" (by simp [split])).nonempty rfl

/-- The components of a path of names are those names. -/
theorem components_named {path : String} (named : ∀ piece ∈ pieces path, Named piece) :
    components path = pieces path := by
  obtain ⟨first, rest, split⟩ := List.exists_cons_of_ne_nil (pieces_ne_nil path)
  have nonempty : first ≠ "" := (named first (by simp [split])).nonempty
  rw [components, split]
  simp only [named_relative named, Bool.false_eq_true, ↓reduceIte,
    beq_eq_false_iff_ne.mpr nonempty, List.singleton_append]
  rw [named_filter fun name member => named name (by simp [split, member])]

/-- A path of names leads to below the path that it is joined to, and so it
cannot leave a directory. -/
theorem components_join (base : String) {path : String}
    (named : ∀ piece ∈ pieces path, Named piece) :
    components (join base path) = components base ++ pieces path := by
  have relative := named_relative named
  have joined := pieces_join base relative
  cases stemmed : stem base with
  | nil =>
    have split : pieces base = [""] := by
      rcases pieces_stem base with split | split
      · exact absurd (split.trans stemmed) (pieces_ne_nil base)
      · rw [split, stemmed, List.nil_append]
    have empty : base = "" := by
      rw [← intercalate_pieces base, split, String.intercalate_singleton]
    have same : join base path = path := by
      simp [join, relative, empty]
    rw [same, empty, components_named named]
    rfl
  | cons first rest =>
    have own : components base =
        (if isAbsolute base then ["/"] else if first == "" then [] else [first]) ++
          rest.filter (!isIdle ·) := by
      rcases pieces_stem base with split | split
      · rw [components, split, stemmed]
      · rw [components, split, stemmed, List.cons_append]
        simp [List.filter_append, isIdle]
    have under : components (join base path) =
        (if isAbsolute base then ["/"] else if first == "" then [] else [first]) ++
          (rest ++ pieces path).filter (!isIdle ·) := by
      rw [components, joined, stemmed, List.cons_append, isAbsolute_join base relative]
    rw [under, own, List.filter_append, named_filter named, List.append_assoc]

/-- A path that ends in a name is not empty. -/
theorem named_nonempty {path name : String} {front : List String}
    (split : pieces path = front ++ [name]) (named : Named name) : path ≠ "" := by
  rintro rfl
  have last : name ∈ pieces "" := by simp [split]
  rw [show pieces "" = [""] by decide, List.mem_singleton] at last
  exact named.nonempty last

/-! ## The path above -/

private theorem filter_trimIdle (names : List String) :
    (trimIdle names).filter (!isIdle ·) = names.filter (!isIdle ·) := by
  have dropped (names : List String) :
      (names.dropWhile isIdle).filter (!isIdle ·) = names.filter (!isIdle ·) := by
    induction names with
    | nil => rfl
    | cons name rest ih =>
      by_cases idle : isIdle name = true
      · simp [idle, ih]
      · simp [idle]
  rw [trimIdle, List.filter_reverse, dropped, List.filter_reverse, List.reverse_reverse]

private theorem trimIdle_named (front : List String) {name : String} (named : Named name) :
    trimIdle (front ++ [name]) = front ++ [name] := by
  simp [trimIdle, named.active]

private theorem trimIdle_concat {names : List String} (left : trimIdle names ≠ []) :
    ∃ front last, trimIdle names = front ++ [last] ∧ isIdle last = false := by
  cases dropped : names.reverse.dropWhile isIdle with
  | nil => simp [trimIdle, dropped] at left
  | cons last rest =>
    refine ⟨rest.reverse, last, by simp [trimIdle, dropped], ?_⟩
    have stopped := List.head?_dropWhile_not isIdle names.reverse
    simpa [dropped] using stopped

/-- A path that leads through the directories in front of the last piece of
another one. It may be spelled with fewer idle pieces. -/
structure Above (path : String) (front : List String) (parent : String) : Prop where
  nonempty : parent ≠ ""
  absolute : isAbsolute parent = isAbsolute path
  active : (pieces parent).filter (!isIdle ·) = front.filter (!isIdle ·)
  unbroken : '\x00' ∉ path.toList → '\x00' ∉ parent.toList
  /-- Only the bare dot asks for a directory that is there already. -/
  dot : endsInDot parent = true → parent = "."

theorem isAbsolute_pieces {path first : String} {rest : List String}
    (split : pieces path = first :: rest) (some : rest ≠ []) :
    isAbsolute path = (first == "") := by
  apply Bool.eq_iff_iff.mpr
  rw [isAbsolute_iff, split, beq_iff_eq]
  constructor
  · rintro ⟨others, -, same⟩
    exact (List.cons.inj same).1
  · rintro rfl
    exact ⟨rest, some, rfl⟩

private theorem unbroken_pieces {path parent : String}
    (inside : ∀ piece ∈ pieces parent, piece ∈ pieces path) (unbroken : '\x00' ∉ path.toList) :
    '\x00' ∉ parent.toList := by
  intro broken
  obtain ⟨piece, member, held⟩ := (mem_pieces parent '\x00').mpr ⟨broken, by decide⟩
  exact unbroken ((mem_pieces path '\x00').mp ⟨piece, inside piece member, held⟩).1

/-- The first piece of a path, when only idle ones come between it and a
name. -/
theorem above_first {path first name : String} {rest : List String}
    (split : pieces path = first :: (rest ++ [name])) (idle : trimIdle rest = []) :
    Above path (first :: rest) (if first == "" then "/" else first) := by
  have quiet : rest.filter (!isIdle ·) = [] := by
    rw [← filter_trimIdle, idle, List.filter_nil]
  have absolute := isAbsolute_pieces split (by simp)
  by_cases root : first = ""
  · subst root
    have none : (pieces "/").filter (!isIdle ·) = [] := by decide
    refine ⟨by decide, by rw [absolute]; rfl, ?_, fun _ => by decide, by decide⟩
    rw [BEq.rfl, if_pos rfl, none, List.filter_cons_of_neg (by decide), quiet]
  · have member : first ∈ pieces path := by simp [split]
    have lone : pieces first = [first] := pieces_undivided (piece_undivided member)
    have relative : isAbsolute first = false := by
      apply Bool.eq_false_iff.mpr
      intro absolute
      obtain ⟨others, some, same⟩ := isAbsolute_iff.mp absolute
      rw [lone] at same
      exact some (List.cons.inj same).2.symm
    have named : (first == "") = false := beq_eq_false_iff_ne.mpr root
    rw [named, if_neg (by simp)]
    refine ⟨root, by rw [absolute, named, relative], ?_, ?_, ?_⟩
    · simp [lone, List.filter_cons, quiet]
    · exact unbroken_pieces (by simp [lone, split])
    · intro dot
      simpa [endsInDot, lastPiece?, lone, named] using dot

/-- The pieces up to the last one in front of a name that is not idle. -/
theorem above_named {path first name : String} {rest : List String}
    (split : pieces path = first :: (rest ++ [name])) (active : trimIdle rest ≠ []) :
    Above path (first :: rest) ("/".intercalate (first :: trimIdle rest)) := by
  have kept : ∀ piece ∈ first :: trimIdle rest, piece ∈ pieces path := by
    intro piece member
    rw [split]
    rcases List.mem_cons.mp member with rfl | member
    · simp
    · have inside : piece ∈ rest := by
        rw [trimIdle, List.mem_reverse] at member
        exact List.mem_reverse.mp ((List.dropWhile_sublist _).subset member)
      simp [inside]
  have own : pieces ("/".intercalate (first :: trimIdle rest)) = first :: trimIdle rest :=
    pieces_intercalate (by simp) fun piece member => piece_undivided (kept piece member)
  refine ⟨?_, ?_, ?_, ?_, ?_⟩
  · intro empty
    rw [empty] at own
    exact active (List.cons.inj own).2.symm
  · rw [isAbsolute_pieces own active, isAbsolute_pieces split (by simp)]
  · rw [own, List.filter_cons, List.filter_cons, filter_trimIdle]
  · exact unbroken_pieces (by rwa [own])
  · intro dot
    obtain ⟨front, last, ends, stays⟩ := trimIdle_concat active
    have nonempty : last ≠ "" := by
      rintro rfl
      cases stays
    have final : lastPiece? ("/".intercalate (first :: trimIdle rest)) = some last := by
      rw [lastPiece?, own, ends]
      simp [nonempty]
    rw [endsInDot, final, beq_iff_eq, Option.some.injEq] at dot
    subst dot
    cases stays

/-- A path has an empty parent, or one that leads to where its last name is.
Making the parent is then making that place. -/
theorem parent_above {path name : String} {front : List String}
    (split : pieces path = front ++ [name]) (named : Named name) :
    ∃ parent, parent? path = some parent ∧
      ((front = [] ∧ parent = "") ∨ Above path front parent) := by
  cases front with
  | nil =>
    refine ⟨"", ?_, .inl ⟨rfl, rfl⟩⟩
    simp [parent?, split, trimIdle, named.nonempty]
  | cons first rest =>
    rw [List.cons_append] at split
    simp only [parent?, split, trimIdle_named rest named]
    cases shape : rest ++ [name] with
    | nil => simp at shape
    | cons second others =>
      have before : (second :: others).dropLast = rest := by
        rw [← shape, List.dropLast_concat]
      simp only [before]
      cases trimmed : trimIdle rest with
      | nil => exact ⟨_, rfl, .inr (above_first split trimmed)⟩
      | cons third more =>
        refine ⟨_, rfl, .inr ?_⟩
        rw [← trimmed]
        exact above_named split (by simp [trimmed])

private theorem intercalate_begins {front names : List String} (some : front ≠ [])
    (first : front <+: names) : ∃ rest, "/".intercalate names = "/".intercalate front ++ rest := by
  obtain ⟨back, rfl⟩ := first
  by_cases whole : back = []
  · exact ⟨"", by simp [whole]⟩
  · rw [String.intercalate_append_of_ne_nil some whole, String.append_assoc]
    exact ⟨_, rfl⟩

private theorem trimIdle_begins (names : List String) : trimIdle names <+: names := by
  have reversed := List.reverse_prefix.mpr (List.dropWhile_suffix (l := names.reverse) isIdle)
  rwa [List.reverse_reverse] at reversed

/-- A path begins with its parent, so limits that it keeps are kept by the
parent too. -/
theorem parent_begins {parent : String} (found : parent? path = some parent) :
    ∃ rest, path = parent ++ rest := by
  have whole := intercalate_pieces path
  unfold parent? at found
  split at found
  · cases found
  rename_i first rest split
  rw [split] at whole
  split at found
  · split at found
    · cases found
    · cases found
      exact ⟨path, by simp⟩
  rename_i trimmed active
  have left : trimIdle rest ≠ [] := active
  split at found
  · cases rest with
    | nil => exact absurd rfl left
    | cons second more =>
      rw [String.intercalate_cons_cons, String.append_assoc] at whole
      rw [← Option.some.inj found]
      by_cases root : first = ""
      · subst root
        exact ⟨"/".intercalate (second :: more), by rw [← whole]; rfl⟩
      · rw [if_neg (by simpa using root)]
        exact ⟨"/" ++ "/".intercalate (second :: more), whole.symm⟩
  · cases found
    have shorter := (trimIdle_begins (trimIdle rest).dropLast).trans
      ((List.dropLast_prefix _).trans (trimIdle_begins rest))
    rw [← whole]
    exact intercalate_begins (by simp) (List.cons_prefix_cons.mpr ⟨rfl, shorter⟩)

end TypedRoutes.PathPieces
