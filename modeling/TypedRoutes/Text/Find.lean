/-!
Where one text occurs in another. Positions are counted in UTF-8 bytes from the start of the text
searched, the unit that editors and reports point with.
-/
namespace TypedRoutes.Text

def byteLength (cs : List Char) : Nat :=
  (cs.map Char.utf8Size).foldr (· + ·) 0

/-- The position of the first occurrence of a pattern, in bytes. -/
def firstOccurrence? (pattern : List Char) : List Char → Option Nat
  | [] => if pattern.isEmpty then some 0 else none
  | c :: rest =>
    if pattern.isPrefixOf (c :: rest) then some 0
    else (firstOccurrence? pattern rest).map (c.utf8Size + ·)

/-- The position of the last occurrence of a pattern, in bytes. It may overlap the one before it. -/
def lastOccurrence? (pattern : List Char) : List Char → Option Nat
  | [] => if pattern.isEmpty then some 0 else none
  | c :: rest =>
    match lastOccurrence? pattern rest with
    | some position => some (c.utf8Size + position)
    | none => if pattern.isPrefixOf (c :: rest) then some 0 else none

/-- A pattern occurs at a position when the characters before it fill that many bytes. -/
def Occurs (pattern cs : List Char) (position : Nat) : Prop :=
  ∃ before after, cs = before ++ pattern ++ after ∧ byteLength before = position

theorem byteLength_cons (c : Char) (cs : List Char) :
    byteLength (c :: cs) = c.utf8Size + byteLength cs :=
  rfl

theorem byteLength_append (front rest : List Char) :
    byteLength (front ++ rest) = byteLength front + byteLength rest := by
  induction front with
  | nil => exact (Nat.zero_add _).symm
  | cons c front ih => rw [List.cons_append, byteLength_cons, byteLength_cons, ih, Nat.add_assoc]

/-- Every character has at least one byte, so a position in bytes is never before that in
characters. -/
theorem length_le_byteLength (cs : List Char) : cs.length ≤ byteLength cs := by
  induction cs with
  | nil => exact Nat.le_refl 0
  | cons c rest ih =>
    have size := c.utf8Size_pos
    rw [List.length_cons, byteLength_cons]
    omega

section Searches
variable {pattern : List Char} {position : Nat}

private theorem occurs_nil :
    Occurs pattern [] position ↔ pattern.isEmpty = true ∧ position = 0 := by
  rw [List.isEmpty_iff]
  constructor
  · rintro ⟨before, after, split, rfl⟩
    obtain ⟨front, rfl⟩ := List.append_eq_nil_iff.mp split.symm
    obtain ⟨rfl, rfl⟩ := List.append_eq_nil_iff.mp front
    exact ⟨rfl, rfl⟩
  · rintro ⟨rfl, rfl⟩
    exact ⟨[], [], rfl, rfl⟩

/-- A pattern occurs in front or somewhere behind the first character. Both searches go by these two
cases. -/
theorem occurs_cons {c : Char} {rest : List Char} :
    Occurs pattern (c :: rest) position ↔
      pattern.isPrefixOf (c :: rest) = true ∧ position = 0 ∨
        ∃ further, Occurs pattern rest further ∧ position = c.utf8Size + further := by
  rw [List.isPrefixOf_iff_prefix]
  constructor
  · rintro ⟨before, after, split, rfl⟩
    cases before with
    | nil => exact .inl ⟨⟨after, split.symm⟩, rfl⟩
    | cons first before =>
      obtain ⟨rfl, behind⟩ := List.cons.inj split
      exact .inr ⟨byteLength before, ⟨before, after, behind, rfl⟩, rfl⟩
  · rintro (⟨⟨after, split⟩, rfl⟩ | ⟨further, ⟨before, after, behind, rfl⟩, rfl⟩)
    · exact ⟨[], after, split.symm, rfl⟩
    · exact ⟨c :: before, after, by rw [behind]; rfl, rfl⟩

/-- The search from the front finds an occurrence that no other one comes before. -/
theorem firstOccurrence?_some {cs : List Char} (found : firstOccurrence? pattern cs = some position) :
    Occurs pattern cs position ∧ ∀ other, Occurs pattern cs other → position ≤ other := by
  induction cs generalizing position with
  | nil =>
    unfold firstOccurrence? at found
    split at found
    · cases found
      rename_i empty
      exact ⟨occurs_nil.mpr ⟨empty, rfl⟩, fun other _ => Nat.zero_le other⟩
    · cases found
  | cons c rest ih =>
    unfold firstOccurrence? at found
    split at found
    · cases found
      rename_i front
      exact ⟨occurs_cons.mpr (.inl ⟨front, rfl⟩), fun other _ => Nat.zero_le other⟩
    · rename_i apart
      obtain ⟨further, behind, rfl⟩ := Option.map_eq_some_iff.mp found
      obtain ⟨occurs, least⟩ := ih behind
      refine ⟨occurs_cons.mpr (.inr ⟨further, occurs, rfl⟩), fun other again => ?_⟩
      rcases occurs_cons.mp again with ⟨front, -⟩ | ⟨later, inner, rfl⟩
      · exact absurd front apart
      · exact Nat.add_le_add_left (least later inner) _

theorem firstOccurrence?_none {cs : List Char} (missed : firstOccurrence? pattern cs = none) :
    ∀ position, ¬ Occurs pattern cs position := by
  induction cs with
  | nil =>
    intro position occurs
    rw [firstOccurrence?, if_pos (occurs_nil.mp occurs).1] at missed
    cases missed
  | cons c rest ih =>
    intro position occurs
    unfold firstOccurrence? at missed
    split at missed
    · cases missed
    · rename_i apart
      rcases occurs_cons.mp occurs with ⟨front, -⟩ | ⟨further, behind, -⟩
      · exact apart front
      · exact ih (Option.map_eq_none_iff.mp missed) further behind

theorem lastOccurrence?_none {cs : List Char} (missed : lastOccurrence? pattern cs = none) :
    ∀ position, ¬ Occurs pattern cs position := by
  induction cs with
  | nil =>
    intro position occurs
    rw [lastOccurrence?, if_pos (occurs_nil.mp occurs).1] at missed
    cases missed
  | cons c rest ih =>
    intro position occurs
    unfold lastOccurrence? at missed
    split at missed
    · cases missed
    · rename_i behind
      split at missed
      · cases missed
      · rename_i apart
        rcases occurs_cons.mp occurs with ⟨front, -⟩ | ⟨further, later, -⟩
        · exact apart front
        · exact ih behind further later

/-- The search from the end finds an occurrence that no other one comes after. -/
theorem lastOccurrence?_some {cs : List Char} (found : lastOccurrence? pattern cs = some position) :
    Occurs pattern cs position ∧ ∀ other, Occurs pattern cs other → other ≤ position := by
  induction cs generalizing position with
  | nil =>
    unfold lastOccurrence? at found
    split at found
    · cases found
      rename_i empty
      exact ⟨occurs_nil.mpr ⟨empty, rfl⟩, fun other occurs => Nat.le_of_eq (occurs_nil.mp occurs).2⟩
    · cases found
  | cons c rest ih =>
    unfold lastOccurrence? at found
    split at found
    · rename_i further behind
      cases found
      obtain ⟨occurs, greatest⟩ := ih behind
      refine ⟨occurs_cons.mpr (.inr ⟨further, occurs, rfl⟩), fun other again => ?_⟩
      rcases occurs_cons.mp again with ⟨-, rfl⟩ | ⟨later, inner, rfl⟩
      · exact Nat.zero_le _
      · exact Nat.add_le_add_left (greatest later inner) _
    · rename_i behind
      split at found
      · cases found
        rename_i front
        refine ⟨occurs_cons.mpr (.inl ⟨front, rfl⟩), fun other again => ?_⟩
        rcases occurs_cons.mp again with ⟨-, rfl⟩ | ⟨later, inner, -⟩
        · exact Nat.le_refl 0
        · exact absurd inner (lastOccurrence?_none behind later)
      · cases found

end Searches

end TypedRoutes.Text
