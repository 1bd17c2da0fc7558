import Mathlib
import TypedRoutes.Proofs.PathPieces
import TypedRoutes.Proofs.RouteAgreement

/-! Concrete paths can be read back. Neither an encoded value nor a numeral or
truth value holds a path separator, so the segments of a path are those of the
fields in order, and each of them gives its value back, the empty one included. -/
namespace TypedRoutes.ConcretePaths
open Command Files Pipeline Route PathPieces PassExecution SoundManifests RouteAgreement

/-! ## Numerals hold no separator -/

section Numerals
open Text
variable {characters : List Char}

private theorem digits_undivided (digits : ∀ c ∈ characters, c.isDigit = true) :
    '/' ∉ characters := by
  intro separator
  have digit := digits '/' separator
  cases digit

private theorem isDigits_undivided (digits : isDigits characters = true) : '/' ∉ characters := by
  simp only [isDigits, Bool.and_eq_true, List.all_eq_true] at digits
  exact digits_undivided digits.2

private theorem splitSign_undivided (undivided : '/' ∉ (splitSign characters).2) :
    '/' ∉ characters := by
  intro separator
  unfold splitSign at undivided
  split at undivided
  · rcases List.mem_cons.mp separator with same | behind
    · cases same
    · exact undivided behind
  · rcases List.mem_cons.mp separator with same | behind
    · cases same
    · exact undivided behind
  · exact undivided separator

private theorem integer_undivided {width : Nat} {value : String}
    (accepted : isSignedInteger width value = true) : '/' ∉ value.toList := by
  unfold isSignedInteger integerValue? at accepted
  by_cases digits : isDigits (splitSign value.toList).2 = true
  · exact splitSign_undivided (isDigits_undivided digits)
  · simp [digits] at accepted

private theorem exponent_undivided (exponent : isExponent characters = true) :
    '/' ∉ characters := by
  cases characters with
  | nil => exact List.not_mem_nil
  | cons c rest =>
    simp only [isExponent, Bool.and_eq_true, Bool.or_eq_true, beq_iff_eq] at exponent
    obtain ⟨letter, digits⟩ := exponent
    rw [List.mem_cons, not_or]
    refine ⟨?_, splitSign_undivided (isDigits_undivided digits)⟩
    rintro rfl
    rcases letter with same | same <;> cases same

private theorem whole_undivided (rest : '/' ∉ characters.dropWhile Char.isDigit) :
    '/' ∉ characters := by
  rw [← List.takeWhile_append_dropWhile (p := Char.isDigit) (l := characters), List.mem_append,
    not_or]
  exact ⟨digits_undivided (List.all_eq_true.mp List.all_takeWhile), rest⟩

private theorem unsignedFloat_undivided (float : isUnsignedFloat characters = true) :
    '/' ∉ characters := by
  apply whole_undivided
  unfold isUnsignedFloat at float
  split at float
  · rename_i rest pointed
    simp only [Bool.and_eq_true] at float
    rw [pointed, List.mem_cons, not_or]
    exact ⟨by decide, whole_undivided (exponent_undivided float.2)⟩
  · simp only [Bool.and_eq_true] at float
    exact exponent_undivided float.2

private theorem specialFloat_undivided
    (special : specialFloats.contains (String.ofList (characters.map Char.toLower)) = true) :
    '/' ∉ characters := by
  intro separator
  have lowered : '/' ∈ characters.map Char.toLower := List.mem_map.mpr ⟨'/', separator, rfl⟩
  have plain : ∀ name ∈ specialFloats, '/' ∉ name.toList := by decide
  have apart := plain _ (List.contains_iff_mem.mp special)
  rw [String.toList_ofList] at apart
  exact apart lowered

private theorem float_undivided {value : String} (accepted : isFloat value = true) :
    '/' ∉ value.toList := by
  apply splitSign_undivided
  unfold isFloat at accepted
  rcases Bool.or_eq_true_iff.mp accepted with unsigned | special
  · exact unsignedFloat_undivided unsigned
  · exact specialFloat_undivided special

end Numerals

/-- A kind whose values are truth values or numerals. The check of values leaves
no room in these for a separator. -/
def Plain (kind : Option Primitive) : Prop :=
  kind ∈ [some .boolean, some .int, some .long, some .float, some .double]

private theorem plain_undivided {kind : Option Primitive} {value : String} (plain : Plain kind)
    (accepted : accepts kind value = true) : '/' ∉ value.toList := by
  simp only [Plain, List.mem_cons, List.not_mem_nil, or_false] at plain
  rcases plain with rfl | rfl | rfl | rfl | rfl
  · simp only [accepts, Bool.or_eq_true, beq_iff_eq] at accepted
    rcases accepted with rfl | rfl <;> decide
  · exact integer_undivided accepted
  · exact integer_undivided accepted
  · exact float_undivided accepted
  · exact float_undivided accepted

/-! ## Segments of a path -/

/-- A field whose value can be told from what stands around it in a path: it is
encoded, or its values are plain. -/
def Separable (field : Field) : Prop :=
  field.encode = true ∨ Plain field.kind

/-- The value of a field that a segment of a path stands for, found by decoding
when the field is encoded. -/
def readBack (field : Field) (segment : String) : Option String :=
  if field.encode then Text.FormUrl.decode? segment else some segment

/-- A path is the route name and then, behind a separator, one segment for every
field in order, from which the last value given for the field is read back. The
route name may hold separators; the segments do not. -/
def ReadsBack (descriptor : Descriptor) (pairs : List (String × String)) (path : String) : Prop :=
  ∃ remainder, path = descriptor.routeName ++ remainder ∧
    (descriptor.fields = [] → remainder = "") ∧
    (descriptor.fields ≠ [] → ∃ segments, remainder = "/" ++ segments ∧
      List.Forall₂ (fun field segment => ∃ value, LastGiven pairs field.name value ∧
        readBack field segment = some value) descriptor.fields (Path.pieces segments))

private theorem join_segments {segments : List String} (some : segments ≠ []) :
    String.join (segments.map ("/" ++ ·)) = "/" ++ "/".intercalate segments := by
  induction segments with
  | nil => exact absurd rfl some
  | cons segment rest ih =>
    cases rest with
    | nil => simp
    | cons next rest =>
      rw [List.map_cons, String.join_cons, ih (by simp), String.intercalate_cons_cons]
      simp only [String.append_assoc]

private theorem segment_reads_back (field : Field) (value : String) :
    readBack field (Template.segment ⟨field.name, field.encode⟩ value) = some value := by
  unfold readBack Template.segment
  split
  · exact Text.FormUrl.decode_encode value
  · rfl

variable {manifest : Manifest} {declaration : Manifest.Declaration} {descriptor : Descriptor}
  {pairs : List (String × String)}

/-- With distinct names the value of a field is checked against its own kind,
and not against that of a field before it. -/
theorem fitting_own {field : Field} {value : String}
    (distinct : (descriptor.fields.map (·.name)).Nodup) (member : field ∈ descriptor.fields)
    (fitting : Fitting descriptor (field.name, value)) : accepts field.kind value = true := by
  obtain ⟨before, first, after, split, named, -, accepted⟩ := fitting
  have held : first ∈ descriptor.fields := by simp [split]
  rwa [← List.inj_on_of_nodup_map distinct held member named]

private theorem segment_undivided {field : Field} {value : String} (separable : Separable field)
    (accepted : accepts field.kind value = true) :
    '/' ∉ (Template.segment ⟨field.name, field.encode⟩ value).toList := by
  unfold Template.segment
  split
  · exact Text.FormUrl.encode_undivided value
  · rename_i unmarked
    exact plain_undivided (separable.resolve_left unmarked) accepted

/-- Segments that hold no separator can be read back from the path they make.
Counted from the end, each separator belongs to one of them. -/
theorem assembled_reads_back {values : String → String}
    (last : ∀ field ∈ descriptor.fields, LastGiven pairs field.name (values field.name))
    (undivided : ∀ field ∈ descriptor.fields,
      '/' ∉ (Template.segment ⟨field.name, field.encode⟩ (values field.name)).toList) :
    ReadsBack descriptor pairs ((Template.ofDescriptor descriptor).assemble fun slot =>
      Template.segment slot (values slot.name)) := by
  let segment (field : Field) : String :=
    Template.segment ⟨field.name, field.encode⟩ (values field.name)
  have slots : (Template.ofDescriptor descriptor).slots.map
      (fun slot => "/" ++ Template.segment slot (values slot.name)) =
        (descriptor.fields.map segment).map ("/" ++ ·) := by
    simp [Template.ofDescriptor, segment]
  refine ⟨_, rfl, ?_, ?_⟩
  · intro none
    simp [Template.ofDescriptor, none]
  · intro fields
    have some : descriptor.fields.map segment ≠ [] := by simpa using fields
    refine ⟨"/".intercalate (descriptor.fields.map segment), by rw [slots, join_segments some], ?_⟩
    rw [pieces_intercalate some (List.forall_mem_map.mpr undivided), List.forall₂_map_right_iff,
      List.forall₂_same]
    intro field member
    exact ⟨values field.name, last field member, segment_reads_back field _⟩

/-- Two lists of values that lead to one path give every field the same value,
in whatever order and however often they are given. -/
theorem ReadsBack.same {other : List (String × String)} {path : String}
    (reads : ReadsBack descriptor pairs path) (again : ReadsBack descriptor other path) :
    ∀ field ∈ descriptor.fields, ∀ value,
      LastGiven pairs field.name value ↔ LastGiven other field.name value := by
  intro field member
  have fields : descriptor.fields ≠ [] := List.ne_nil_of_mem member
  obtain ⟨remainder, whole, -, divided⟩ := reads
  obtain ⟨otherRemainder, otherWhole, -, otherDivided⟩ := again
  obtain ⟨segments, behind, each⟩ := divided fields
  obtain ⟨otherSegments, otherBehind, otherEach⟩ := otherDivided fields
  have same : segments = otherSegments := by
    rw [whole, behind, otherBehind] at otherWhole
    simpa using otherWhole
  subst same
  -- A segment is read back in one way only, so both lists gave what it says.
  have agreed : List.Forall₂ (fun field _ =>
      (∀ value, LastGiven pairs field.name value ↔ LastGiven other field.name value) ∧ True)
      descriptor.fields (Files.Path.pieces segments) := by
    refine List.Forall₂.mp ?_ each otherEach
    rintro field segment ⟨value, last, read⟩ ⟨otherValue, otherLast, otherRead⟩
    cases read.symm.trans otherRead
    refine ⟨fun given => ⟨fun first => ?_, fun second => ?_⟩, trivial⟩
    · exact last.unique first ▸ otherLast
    · exact otherLast.unique second ▸ last
  exact ((List.forall₂_and_left _ _).mp agreed).1 field member

/-! ## Paths of requests -/

/-- No two fields of a declaration that passed validation have one name, since
no two of its properties have. -/
theorem fields_distinct (sound : SoundProperties declaration.properties)
    (built : Descriptor.ofDeclaration manifest.settings declaration = .ok descriptor) :
    (descriptor.fields.map (·.name)).Nodup := by
  rw [Descriptors.fields_named built]
  exact sound.distinct.sublist (List.filter_sublist.map _)

private theorem filled_reads_back {path : String}
    (distinct : (descriptor.fields.map (·.name)).Nodup)
    (separable : ∀ field ∈ descriptor.fields, Separable field)
    (fitting : ∀ pair ∈ pairs, Fitting descriptor pair) (leads : Leads descriptor pairs path) :
    ReadsBack descriptor pairs path := by
  obtain ⟨values, last, expanded⟩ := leads
  rw [expand_total] at expanded
  cases expanded
  refine assembled_reads_back last fun field member => ?_
  obtain ⟨before, after, split, -⟩ := last field member
  have given : (field.name, values field.name) ∈ pairs := by simp [split]
  exact segment_undivided (separable field member)
    (fitting_own distinct member (fitting _ given))

/-- A path that a request over a manifest read from a text answers with can be
read back when every field of its descriptor is separable. Requests for one
declaration that give some field different values lead to different paths. -/
theorem concrete_path_reads_back {source file name path : String}
    (accepted : Manifest.parse source file = .ok manifest)
    (reached : route manifest name pairs = .ok path) :
    ∃ declaration descriptor, manifest.find? name = some declaration ∧
      Descriptor.ofDeclaration manifest.settings declaration = .ok descriptor ∧
      ((∀ field ∈ descriptor.fields, Separable field) →
        ReadsBack descriptor pairs path ∧
        ∀ other otherPairs, manifest.find? other = some declaration →
          route manifest other otherPairs = .ok path →
          ∀ field ∈ descriptor.fields, ∀ value,
            LastGiven pairs field.name value ↔ LastGiven otherPairs field.name value) := by
  obtain ⟨descriptor, ⟨declaration, found, -, built⟩, fitting, leads⟩ := route_ok.mp reached
  have sound := (parse_ok.mp accepted).2.declarations _ (List.mem_of_find?_eq_some found)
  have distinct := fields_distinct sound.properties built
  refine ⟨declaration, descriptor, found, built, fun separable => ?_⟩
  have reads := filled_reads_back distinct separable fitting leads
  refine ⟨reads, fun other otherPairs otherFound otherReached => ?_⟩
  obtain ⟨same, ⟨again, sameFound, -, sameBuilt⟩, otherFitting, otherLeads⟩ :=
    route_ok.mp otherReached
  cases otherFound.symm.trans sameFound
  cases built.symm.trans sameBuilt
  exact reads.same (filled_reads_back distinct separable otherFitting otherLeads)

/-- A manifest with an encoded field and a numeral beside it. -/
def articleText : String :=
  "[[declaration]]\nname=\"Article\"\n" ++
  "annotations=[\x7bname=\"Destination\",args=[\"article\"]\x7d]\n" ++
  "[[declaration.properties]]\nname=\"title\"\ntype=\"String\"\nannotations=[\"EncodeUrl\"]\n" ++
  "[[declaration.properties]]\nname=\"page\"\ntype=\"Int\"\n"

def articleManifest : Manifest where
  declarations := [
    { name := "Article"
      markers := [⟨"Destination", ["article"]⟩]
      properties := [
        { name := "title", type := some "String", markers := [⟨"EncodeUrl", []⟩] },
        { name := "page", type := some "Int" }] }]

private theorem article_accepted :
    Manifest.parse articleText "wayfinder.toml" = .ok articleManifest :=
  parse_checked (by cbv) (by rfl)

def articleDescriptor : Descriptor where
  routeName := "article"
  fields := [⟨"title", "String", some .string, true⟩, ⟨"page", "Int", some .int, false⟩]
  source := ⟨"", "Article"⟩

/-- A title that is taken back for the empty one, which is written as an empty
segment. -/
def articleValues : List (String × String) :=
  [("title", "a/b c"), ("page", "-7"), ("title", "")]

theorem concrete_path_reads_back_article :
    Manifest.parse articleText "wayfinder.toml" = .ok articleManifest ∧
      route articleManifest "Article" articleValues = .ok "article//-7" ∧
      ReadsBack articleDescriptor articleValues "article//-7" ∧
      ∀ others, route articleManifest "Article" others = .ok "article//-7" →
        LastGiven others "title" "" := by
  have reached : route articleManifest "Article" articleValues = .ok "article//-7" := by
    decide +kernel
  obtain ⟨declaration, descriptor, found, built, readable⟩ :=
    concrete_path_reads_back article_accepted reached
  have same : Descriptor.ofDeclaration articleManifest.settings declaration =
      .ok articleDescriptor := by
    cases found
    decide +kernel
  cases built.symm.trans same
  have separable : ∀ field ∈ articleDescriptor.fields, Separable field := by
    simp [articleDescriptor, Separable, Plain]
  obtain ⟨reads, alike⟩ := readable separable
  refine ⟨article_accepted, reached, reads, fun others otherReached => ?_⟩
  have title : ⟨"title", "String", some .string, true⟩ ∈ articleDescriptor.fields := .head _
  exact (alike "Article" others found otherReached _ title "").mp (lastValue_iff.mp rfl)

end TypedRoutes.ConcretePaths
