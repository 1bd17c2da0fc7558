import Mathlib.Order.Bounds.Basic
import TypedRoutes.Proofs.ValidationRules

/-! Where errors point. A name is looked for by characters and its place is told
in bytes. Whatever source and name are, a span that is found covers the bytes of
the name and no others, between two quotes, and none is found only for a name
that is quoted nowhere. -/
namespace TypedRoutes.NameSpans
open Manifest ValidationRules

/-- The bytes of a pattern stand in a source from a position on. Positions count
bytes, as spans do. -/
def StandsAt (pattern source : String) (position : Nat) : Prop :=
  source.toUTF8.extract position (position + pattern.utf8ByteSize) = pattern.toUTF8

/-- All places of a pattern in a source, those that overlap included. -/
def places (pattern source : String) : Set Nat :=
  {position | StandsAt pattern source position}

def inQuotes (name : String) : String :=
  "\"" ++ name ++ "\""

/-- An assignment of a name, with spaces around the sign, which is the way that
a manifest is usually written. -/
def spacedAssignment (name : String) : String :=
  "name = " ++ inQuotes name

/-- The same without spaces. -/
def tightAssignment (name : String) : String :=
  "name=" ++ inQuotes name

/-- The span of a name by the first of three forms that the source has at all,
at that one of its places which is extreme in the direction of the search. -/
inductive Located (extreme : Set Nat → Nat → Prop) (source name : String) : Span → Prop where
  | spaced {position : Nat} (found : extreme (places (spacedAssignment name) source) position) :
      Located extreme source name ⟨position + 8, name.utf8ByteSize⟩
  | tight {position : Nat} (noSpaced : places (spacedAssignment name) source = ∅)
      (found : extreme (places (tightAssignment name) source) position) :
      Located extreme source name ⟨position + 6, name.utf8ByteSize⟩
  | quoted {position : Nat} (noSpaced : places (spacedAssignment name) source = ∅)
      (noTight : places (tightAssignment name) source = ∅)
      (found : extreme (places (inQuotes name) source) position) :
      Located extreme source name ⟨position + 1, name.utf8ByteSize⟩

/-- A span of the source that starts and ends between characters, covers the
bytes of the name and stands between two quotes. With this it can be shown in
any source. -/
structure Covers (source name : String) (span : Span) : Prop where
  inside : span.offset + span.length ≤ source.utf8ByteSize
  starts : (String.Pos.Raw.mk span.offset).IsValid source
  ends : (String.Pos.Raw.mk (span.offset + span.length)).IsValid source
  bytes : source.toUTF8.extract span.offset (span.offset + span.length) = name.toUTF8
  opened : ∃ quote, span.offset = quote + 1 ∧ StandsAt "\"" source quote
  closed : StandsAt "\"" source (span.offset + span.length)

/-- The name that an error is about, if it is about one. A text that is not
TOML, and a rule on settings, are about none. -/
def subject? : Error → Option String
  | .reservedKeyword _ name .. | .invalidIdentifier _ name .. | .duplicate _ name .. => some name
  | _ => none

/-- The spans of a name, from both ends of the source, and what errors on the
name make of them. -/
structure Pointed (source name : String) : Prop where
  first : ∀ span, Span.first? source name = some span ↔ Located IsLeast source name span
  last : ∀ span, Span.last? source name = some span ↔ Located IsGreatest source name span
  covers : ∀ span, Span.first? source name = some span ∨ Span.last? source name = some span →
    Covers source name span
  missing : (Span.first? source name = none ↔ places (inQuotes name) source = ∅) ∧
    (Span.last? source name = none ↔ places (inQuotes name) source = ∅)
  /-- A name that is refused for what it is. -/
  checked : ∀ (scope : Scope) (kind : String) (error : Error), scope.source = source →
    scope.checkName name kind = .error error →
      subject? error = some name ∧ error.label?.map (·.2) = Span.first? source name
  repeated : ∀ (scope : Scope) (kind : String), scope.source = source →
    (scope.repeated name kind).label? =
      (Span.last? source name).map ("declared again here", ·)

/-! ## Characters and their bytes -/

section Bytes
variable {pattern source name : String} {position : Nat}

private theorem extract_front (front after : String) :
    (front ++ after).toUTF8.extract 0 front.utf8ByteSize = front.toUTF8 := by
  rw [String.toUTF8_eq_toByteArray, String.toByteArray_append,
    ByteArray.extract_append_eq_left String.size_toByteArray.symm, String.toUTF8_eq_toByteArray]

private theorem standsAt_between (before pattern after : String) :
    StandsAt pattern (before ++ pattern ++ after) before.utf8ByteSize := by
  have behind := ByteArray.extract_append_size_add' (a := before.toByteArray)
    (b := (pattern ++ after).toUTF8) (i := 0) (j := pattern.utf8ByteSize)
    String.size_toByteArray.symm
  rw [extract_front, String.toUTF8_eq_toByteArray, ← String.toByteArray_append] at behind
  rw [StandsAt, String.append_assoc]
  exact behind

/-- Bytes that stand for characters start and end between characters. This is
where UTF-8 comes in; the rest is about texts. -/
theorem standsAt_iff (some : pattern ≠ "") : StandsAt pattern source position ↔
    ∃ before after, source = before ++ pattern ++ after ∧ before.utf8ByteSize = position := by
  have filled : pattern.utf8ByteSize ≠ 0 := by rwa [Ne, String.utf8ByteSize_eq_zero_iff]
  constructor
  · intro stands
    have size := congrArg ByteArray.size stands
    simp only [String.toUTF8_eq_toByteArray, ByteArray.size_extract, String.size_toByteArray]
      at size
    let first : String.Pos.Raw := ⟨position⟩
    let last : String.Pos.Raw := ⟨position + pattern.utf8ByteSize⟩
    have ordered : first ≤ last := Nat.le_add_right ..
    have inside : last ≤ source.rawEndPos := by
      change position + pattern.utf8ByteSize ≤ source.utf8ByteSize
      omega
    have valid := pattern.isValidUTF8
    rw [← String.toUTF8_eq_toByteArray, ← stands] at valid
    rcases (String.Pos.Raw.isValidUTF8_extract_iff first last ordered inside).mp valid with
      same | ⟨starts, ends⟩
    · have positions : position = position + pattern.utf8ByteSize := congrArg (·.byteIdx) same
      omega
    · obtain ⟨before, rest, split, begun⟩ := String.Pos.Raw.isValid_iff_exists_append.mp starts
      obtain ⟨front, after, splitAgain, ended⟩ := String.Pos.Raw.isValid_iff_exists_append.mp ends
      have begins : position = before.utf8ByteSize := congrArg (·.byteIdx) begun
      have stops : position + pattern.utf8ByteSize = front.utf8ByteSize :=
        congrArg (·.byteIdx) ended
      -- The two cuts leave the pattern between them.
      have joined := source.toUTF8.extract_eq_extract_append_extract position
        (Nat.zero_le position) (Nat.le_add_right position pattern.utf8ByteSize)
      rw [stands, stops, begins] at joined
      nth_rewrite 1 [splitAgain] at joined
      rw [extract_front, split, extract_front] at joined
      have cut : front = before ++ pattern := by
        apply String.toByteArray_inj.mp
        rw [String.toByteArray_append]
        exact joined
      exact ⟨before, after, cut ▸ splitAgain, begins.symm⟩
  · rintro ⟨before, after, rfl, rfl⟩
    exact standsAt_between before pattern after

private theorem byteLength_toList (text : String) :
    Text.byteLength text.toList = text.utf8ByteSize := by
  obtain ⟨characters, rfl⟩ := text.exists_eq_ofList
  rw [String.toList_ofList]
  induction characters with
  | nil => rfl
  | cons c rest ih =>
    rw [Text.byteLength_cons, ih, String.ofList_cons]
    simp

/-- The places of a pattern are where its characters occur, with their bytes
counted. -/
theorem mem_places (some : pattern ≠ "") : position ∈ places pattern source ↔
    Text.Occurs pattern.toList source.toList position := by
  rw [places, Set.mem_ofPred_eq, standsAt_iff some]
  constructor
  · rintro ⟨before, after, rfl, rfl⟩
    exact ⟨before.toList, after.toList, by simp, byteLength_toList before⟩
  · rintro ⟨before, after, split, rfl⟩
    refine ⟨String.ofList before, String.ofList after, ?_, ?_⟩
    · apply String.toList_inj.mp
      simpa using split
    · rw [← byteLength_toList, String.toList_ofList]

private theorem covers_quoted (before name after : String) :
    Covers (before ++ inQuotes name ++ after) name
      ⟨before.utf8ByteSize + 1, name.utf8ByteSize⟩ := by
  have quote : "\"".utf8ByteSize = 1 := rfl
  have start : (before ++ "\"").utf8ByteSize = before.utf8ByteSize + 1 := by
    rw [String.utf8ByteSize_append, quote]
  have stop : (before ++ "\"" ++ name).utf8ByteSize =
      before.utf8ByteSize + 1 + name.utf8ByteSize := by
    rw [String.utf8ByteSize_append, start]
  have whole : before ++ inQuotes name ++ after = before ++ "\"" ++ name ++ ("\"" ++ after) := by
    simp only [inQuotes, String.append_assoc]
  have opened := standsAt_between before "\"" (name ++ ("\"" ++ after))
  have bytes := standsAt_between (before ++ "\"") name ("\"" ++ after)
  have closed := standsAt_between (before ++ "\"" ++ name) "\"" after
  rw [← String.append_assoc] at opened
  rw [start] at bytes
  rw [stop, String.append_assoc] at closed
  rw [whole]
  refine ⟨?_, ?_, ?_, bytes, ⟨_, rfl, opened⟩, closed⟩
  · rw [String.utf8ByteSize_append, stop]
    exact Nat.le_add_right ..
  · exact String.Pos.Raw.isValid_iff_exists_append.mpr
      ⟨_, _, String.append_assoc, String.Pos.Raw.ext start.symm⟩
  · exact String.Pos.Raw.isValid_iff_exists_append.mpr
      ⟨_, _, rfl, String.Pos.Raw.ext stop.symm⟩

/-- Behind whatever comes in front of it a quoted name is covered. -/
theorem covers_behind {front : String} (size : Nat) (sized : front.utf8ByteSize = size)
    (stands : StandsAt (front ++ inQuotes name) source position) :
    Covers source name ⟨position + size + 1, name.utf8ByteSize⟩ ∧
      places (inQuotes name) source ≠ ∅ := by
  obtain ⟨before, after, rfl, rfl⟩ := (standsAt_iff (by simp [inQuotes])).mp stands
  rw [← sized, ← String.append_assoc, ← String.utf8ByteSize_append]
  have stands := standsAt_between (before ++ front) (inQuotes name) after
  exact ⟨covers_quoted _ name after, Set.nonempty_iff_ne_empty.mp ⟨_, stands⟩⟩

end Bytes

/-! ## Searches -/

/-- A search that ends at the place of a pattern which is extreme in one
direction. The two directions differ in nothing else. -/
structure Finds (search : List Char → List Char → Option Nat)
    (extreme : Set Nat → Nat → Prop) : Prop where
  found : ∀ {pattern source : String} {position : Nat}, pattern ≠ "" →
    search pattern.toList source.toList = some position →
      extreme (places pattern source) position
  missed : ∀ {pattern source : String}, pattern ≠ "" →
    search pattern.toList source.toList = none → places pattern source = ∅
  held : ∀ {places : Set Nat} {position : Nat}, extreme places position → position ∈ places
  unique : ∀ {places : Set Nat} {position other : Nat}, extreme places position →
    extreme places other → position = other

private theorem first_finds : Finds Text.firstOccurrence? IsLeast where
  found some found := by
    obtain ⟨occurs, least⟩ := Text.firstOccurrence?_some found
    exact ⟨(mem_places some).mpr occurs,
      fun other stands => least other ((mem_places some).mp stands)⟩
  missed some missed := Set.eq_empty_of_forall_notMem fun position stands =>
    Text.firstOccurrence?_none missed position ((mem_places some).mp stands)
  held least := least.1
  unique := IsLeast.unique

theorem last_finds : Finds Text.lastOccurrence? IsGreatest where
  found some found := by
    obtain ⟨occurs, greatest⟩ := Text.lastOccurrence?_some found
    exact ⟨(mem_places some).mpr occurs,
      fun other stands => greatest other ((mem_places some).mp stands)⟩
  missed some missed := Set.eq_empty_of_forall_notMem fun position stands =>
    Text.lastOccurrence?_none missed position ((mem_places some).mp stands)
  held greatest := greatest.1
  unique := IsGreatest.unique

section Searching
variable {search : List Char → List Char → Option Nat} {extreme : Set Nat → Nat → Prop}
  {source name : String} {span other : Span}

/-- However a name is located, the span covers it, and the name is quoted
somewhere. -/
theorem Located.covers (finds : Finds search extreme) (located : Located extreme source name span) :
    Covers source name span ∧ places (inQuotes name) source ≠ ∅ := by
  cases located with
  | spaced found => exact covers_behind 7 rfl (finds.held found)
  | tight noSpaced found => exact covers_behind 5 rfl (finds.held found)
  | quoted noSpaced noTight found =>
    have stands := finds.held found
    rw [← String.empty_append (s := inQuotes name)] at stands
    exact covers_behind 0 rfl stands

/-- The forms exclude each other, and each has one extreme place, so there is
one span at most. -/
theorem Located.unique (finds : Finds search extreme) (located : Located extreme source name span)
    (again : Located extreme source name other) : span = other := by
  have absent {pattern : String} {position : Nat} (none : places pattern source = ∅)
      (found : extreme (places pattern source) position) : False := by
    have member := finds.held found
    rw [none] at member
    exact member
  cases located with
  | spaced found =>
    cases again with
    | spaced foundAgain => rw [finds.unique found foundAgain]
    | tight noSpaced => exact (absent noSpaced found).elim
    | quoted noSpaced => exact (absent noSpaced found).elim
  | tight noSpaced found =>
    cases again with
    | spaced foundAgain => exact (absent noSpaced foundAgain).elim
    | tight _ foundAgain => rw [finds.unique found foundAgain]
    | quoted _ noTight => exact (absent noTight found).elim
  | quoted noSpaced noTight found =>
    cases again with
    | spaced foundAgain => exact (absent noSpaced foundAgain).elim
    | tight _ foundAgain => exact (absent noTight foundAgain).elim
    | quoted _ _ foundAgain => rw [finds.unique found foundAgain]

/-- A search either ends with the span of a form or finds no form at all. As
every form has the quoted name in it, the last one decides. -/
theorem locate_cases (finds : Finds search extreme) (source name : String) :
    (∃ span, Span.locate? search source name = some span ∧ Located extreme source name span) ∨
      Span.locate? search source name = none ∧ places (inQuotes name) source = ∅ := by
  have spelled : Span.forms name =
      [((spacedAssignment name).toList, 8), ((tightAssignment name).toList, 6),
        ((inQuotes name).toList, 1)] := by
    simp [Span.forms, spacedAssignment, tightAssignment, inQuotes]
  have someQuotes : inQuotes name ≠ "" := by simp [inQuotes]
  have someSpaced : spacedAssignment name ≠ "" := by simp [spacedAssignment]
  have someTight : tightAssignment name ≠ "" := by simp [tightAssignment]
  unfold Span.locate?
  rw [spelled]
  cases searched : search (spacedAssignment name).toList source.toList with
  | some position =>
    exact .inl ⟨_, by simp [searched], .spaced (finds.found someSpaced searched)⟩
  | none =>
    have noSpaced := finds.missed someSpaced searched
    cases searchedNext : search (tightAssignment name).toList source.toList with
    | some position =>
      exact .inl ⟨_, by simp [searched, searchedNext],
        .tight noSpaced (finds.found someTight searchedNext)⟩
    | none =>
      have noTight := finds.missed someTight searchedNext
      cases searchedLast : search (inQuotes name).toList source.toList with
      | some position =>
        exact .inl ⟨_, by simp [searched, searchedNext, searchedLast],
          .quoted noSpaced noTight (finds.found someQuotes searchedLast)⟩
      | none =>
        exact .inr ⟨by simp [searched, searchedNext, searchedLast],
          finds.missed someQuotes searchedLast⟩

theorem locate_some (finds : Finds search extreme) :
    Span.locate? search source name = some span ↔ Located extreme source name span := by
  rcases locate_cases finds source name with ⟨found, searched, located⟩ | ⟨searched, none⟩
  · rw [searched, Option.some.injEq]
    constructor
    · rintro rfl
      exact located
    · exact located.unique finds
  · rw [searched]
    exact iff_of_false (by simp) fun located => (located.covers finds).2 none

private theorem locate_none (finds : Finds search extreme) :
    Span.locate? search source name = none ↔ places (inQuotes name) source = ∅ := by
  rcases locate_cases finds source name with ⟨found, searched, located⟩ | ⟨searched, none⟩
  · rw [searched]
    exact iff_of_false (by simp) (located.covers finds).2
  · exact iff_of_true searched none

end Searching

/-! ## Errors -/

variable {source file : String}

private theorem checkName_label {scope : Scope} {name kind : String} {error : Error}
    (refused : scope.checkName name kind = .error error) :
    subject? error = some name ∧ error.label?.map (·.2) = Span.first? scope.source name := by
  unfold Scope.checkName at refused
  split at refused
  · cases refused
    exact ⟨rfl, by simp [Error.label?, Function.comp_def]⟩
  · split at refused
    · cases refused
      exact ⟨rfl, by simp [Error.label?, Function.comp_def]⟩
    · cases refused

private theorem name_pointed (source name : String) : Pointed source name where
  first _ := locate_some first_finds
  last _ := locate_some last_finds
  covers := by
    rintro span (first | last)
    · exact (((locate_some first_finds).mp first).covers first_finds).1
    · exact (((locate_some last_finds).mp last).covers last_finds).1
  missing := ⟨locate_none first_finds, locate_none last_finds⟩
  checked scope kind error same refused := same ▸ checkName_label refused
  repeated scope kind same := by
    subst same
    rfl

/-- An error about a name points at the first or the last place of the name, and
nowhere when the source has no such place. -/
theorem label_placed {rule : Rule} {error : Error} {name : String}
    (reports : Reports source file rule error) (subject : subject? error = some name) :
    error.label?.map (·.2) = Span.first? source name ∨
      error.label?.map (·.2) = Span.last? source name := by
  have place (found : Option Span) (words : String) :
      (found.map fun span => (words, span)).map (·.2) = found := by
    rw [Option.map_map]
    exact Option.map_id'
  cases reports with
  | hidden => cases subject
  | keyword =>
    cases subject
    exact .inl (place ..)
  | identifier =>
    cases subject
    exact .inl (place ..)
  | declaredAgain =>
    cases subject
    exact .inr (place ..)
  | propertyAgain =>
    cases subject
    exact .inr (place ..)

/-- An error that a text is refused with comes from a rule that it breaks,
unless there was nothing to check. -/
theorem refused_reports {error : Error} (refused : parse source file = .error error) :
    error = .malformed file ∨ ∃ rule, Reports source file rule error := by
  unfold parse at refused
  split at refused
  · cases refused
    exact .inl rfl
  · rename_i manifest decoded
    cases manifest_checked manifest source file with
    | passed ok => rw [ok] at refused; cases refused
    | refused failed split held reports =>
      rw [failed] at refused
      cases refused
      exact .inr ⟨_, reports⟩

/-- For every source and name the search from either end finds the span of the
preferred form that there is. So the label of an error about a name is on that
name, and it is left out only when the source quotes the name nowhere. -/
theorem spans_cover_names (source : String) : (∀ name, Pointed source name) ∧
    ∀ file error name, parse source file = .error error → subject? error = some name →
      (error.label? = none ↔ places (inQuotes name) source = ∅) ∧
        ∀ text span, error.label? = some (text, span) → Covers source name span := by
  refine ⟨name_pointed source, fun file error name refused subject => ?_⟩
  have pointed := name_pointed source name
  rcases refused_reports refused with rfl | ⟨rule, reports⟩
  · cases subject
  · have placed := label_placed reports subject
    constructor
    · rw [← Option.map_eq_none_iff (f := (·.2))]
      rcases placed with first | last
      · rw [first, pointed.missing.1]
      · rw [last, pointed.missing.2]
    · intro text span labelled
      rw [labelled] at placed
      exact pointed.covers span (placed.imp Eq.symm Eq.symm)

/-- An assignment comes before a quote in front of it, and bytes are counted. -/
example : Span.first? "é \"a\" name=\"a\"" "a" = some ⟨13, 1⟩ := by decide +kernel

end TypedRoutes.NameSpans
