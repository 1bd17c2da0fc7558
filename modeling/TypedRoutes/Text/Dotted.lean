/-!
Dotted names, the spelling of packages and of qualified marker and type names. A marker matches
by its short name, the part after the last dot, and a package names a directory by its segments.
-/
namespace TypedRoutes.Text

/-- The characters after the last `mark`, all of them when there is none. -/
def afterLast (mark : Char) (cs : List Char) : List Char :=
  (cs.reverse.takeWhile (· != mark)).reverse

/-- The characters before the first `mark`, all of them when there is none. -/
def beforeFirst (mark : Char) (cs : List Char) : List Char :=
  cs.takeWhile (· != mark)

/-- The short name of a qualified name: `com.app.Route` is known as `Route`. A name without dots is
its own short name. -/
def shortName (name : String) : String :=
  String.ofList (afterLast '.' name.toList)

/-- The segments of a dotted name, empty ones included, so that the name can be put together from
them again. -/
def segments (name : String) : List String :=
  (name.toList.splitOn '.').map String.ofList

/-- The directory of a package: its segments as path components. Empty segments name no directory
and are left out. -/
def packageDirectory (package : String) : String :=
  "/".intercalate ((segments package).filter (· != ""))

/-- Characters that hold no mark stay behind the last one, whatever is in front of them. -/
theorem afterLast_append {mark : Char} (front : List Char) {cs : List Char} (unmarked : mark ∉ cs) :
    afterLast mark (front ++ cs) = afterLast mark front ++ cs := by
  have kept : ∀ c ∈ cs.reverse, (c != mark) = true := by
    intro c member
    rw [bne_iff_ne]
    rintro rfl
    exact unmarked (List.mem_reverse.mp member)
  rw [afterLast, List.reverse_append, List.takeWhile_append_of_pos kept, List.reverse_append,
    List.reverse_reverse, afterLast]

theorem afterLast_append_cons (mark : Char) (qualifier cs : List Char) :
    afterLast mark (qualifier ++ mark :: cs) = afterLast mark (mark :: cs) := by
  simp only [afterLast, List.reverse_append, List.reverse_cons, List.append_assoc]
  rw [List.reverse_inj]
  induction cs.reverse with
  | nil => simp
  | cons c rest ih => by_cases h : (c != mark) = true <;> simp_all

theorem afterLast_cons_self (mark : Char) (cs : List Char) :
    afterLast mark (mark :: cs) = afterLast mark cs := by
  rw [afterLast, List.reverse_cons, afterLast, List.reverse_inj]
  induction cs.reverse with
  | nil => simp
  | cons c rest ih => by_cases h : (c != mark) = true <;> simp_all

/-- What is behind a mark and holds none is what is after the last one. -/
theorem afterLast_behind {mark : Char} (front : List Char) {cs : List Char} (unmarked : mark ∉ cs) :
    afterLast mark (front ++ mark :: cs) = cs := by
  rw [afterLast_append_cons, afterLast_cons_self, ← List.nil_append cs,
    afterLast_append [] unmarked]
  rfl

theorem beforeFirst_unmarked (mark : Char) (cs : List Char) : mark ∉ beforeFirst mark cs := by
  intro member
  simpa using List.all_eq_true.mp List.all_takeWhile mark member

/-- What is before the first mark is all there is, or stands in front of it. -/
theorem beforeFirst_splits (mark : Char) (cs : List Char) :
    cs = beforeFirst mark cs ∨ ∃ rest, cs = beforeFirst mark cs ++ mark :: rest := by
  induction cs with
  | nil => exact .inl rfl
  | cons c cs ih =>
    by_cases own : c = mark
    · subst own
      exact .inr ⟨cs, by simp [beforeFirst]⟩
    · have further : beforeFirst mark (c :: cs) = c :: beforeFirst mark cs := by
        simp [beforeFirst, own]
      rw [further]
      exact ih.imp (congrArg (c :: ·)) fun ⟨rest, split⟩ => ⟨rest, congrArg (c :: ·) split⟩

/-- Characters without a mark are before the first one. -/
theorem beforeFirst_append {mark : Char} {cs : List Char} (unmarked : mark ∉ cs)
    (rest : List Char) : beforeFirst mark (cs ++ rest) = cs ++ beforeFirst mark rest := by
  refine List.takeWhile_append_of_pos fun c member => ?_
  rw [bne_iff_ne]
  rintro rfl
  exact unmarked member

private theorem afterLast_reversed (mark : Char) (cs : List Char) :
    afterLast mark cs = (beforeFirst mark cs.reverse).reverse :=
  rfl

/-- What is after the last mark is all there is, or stands behind it. -/
theorem afterLast_splits (mark : Char) (cs : List Char) :
    cs = afterLast mark cs ∨ ∃ front, cs = front ++ mark :: afterLast mark cs := by
  rw [afterLast_reversed]
  rcases beforeFirst_splits mark cs.reverse with whole | ⟨rest, split⟩
  · exact .inl (by rw [← whole, List.reverse_reverse])
  · refine .inr ⟨rest.reverse, ?_⟩
    have turned := congrArg List.reverse split
    simpa using turned

end TypedRoutes.Text
