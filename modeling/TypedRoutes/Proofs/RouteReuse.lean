import Mathlib.Data.Finset.Card
import Mathlib.Data.List.Forall2
import TypedRoutes.Pipeline.Lint

/-! Route names that are used again. The lint goes over the descriptors once,
puts every one behind the earlier users of its route name, and then warns of all
users but the first, name by name. So it warns of a reuse once, against the
first use, and of as many as are left over when each name is counted once. -/
namespace TypedRoutes.RouteReuse
open Pipeline Route

/-- The place of the first descriptor with a route name, or the length of the
list when there is none. -/
def firstUse (descriptors : List Descriptor) (routeName : String) : ℕ :=
  (descriptors.map (·.routeName)).idxOf routeName

/-- The descriptor at a place has the route name of one before it. -/
def Reuses (descriptors : List Descriptor) (place : ℕ) : Prop :=
  ∃ descriptor, descriptors[place]? = some descriptor ∧
    ∃ earlier ∈ descriptors.take place, earlier.routeName = descriptor.routeName

/-- The warning on a descriptor whose route name another one was first to use.
It names that one and is located at the reuse. -/
structure WarnsOf (first reuse : Descriptor) (warning : Diagnostic) : Prop where
  severity : warning.severity = .warning
  phase : warning.phase = lintPhase
  location : warning.location = some reuse.source.qualified
  message : warning.message = "route '" ++ reuse.routeName ++ "' of '" ++
    reuse.source.qualified ++ "' is already used by '" ++ first.source.qualified ++ "'"

/-- A warning on the descriptor at a place, against the first use of its route
name. -/
def WarnsAt (descriptors : List Descriptor) (warning : Diagnostic) (place : ℕ) : Prop :=
  ∃ first reuse, descriptors[place]? = some reuse ∧
    descriptors[firstUse descriptors reuse.routeName]? = some first ∧ WarnsOf first reuse warning

/-- The route name at one place is used before the one at another place, or it
is the same name and the place itself comes before. -/
def Precedes (descriptors : List Descriptor) (place next : ℕ) : Prop :=
  ∃ descriptor other, descriptors[place]? = some descriptor ∧ descriptors[next]? = some other ∧
    (firstUse descriptors descriptor.routeName < firstUse descriptors other.routeName ∨
      descriptor.routeName = other.routeName ∧ place < next)

/-- The warnings on a list of descriptors: for which places there are any, in
what order, and how many. -/
structure ReportsReuse (descriptors : List Descriptor) (warnings : List Diagnostic) : Prop where
  /-- There is one for every place that reuses a route name and none for other
  places, by names in the order of first use and then by places. -/
  reported : ∃ places : List ℕ, places.Nodup ∧ places.Pairwise (Precedes descriptors) ∧
    (∀ place, place ∈ places ↔ Reuses descriptors place) ∧
    List.Forall₂ (WarnsAt descriptors) warnings places
  counted : warnings.length =
    descriptors.length - (descriptors.map (·.routeName)).toFinset.card

/-! ## The names in order -/

private theorem eraseDups_concat (names : List String) (last : String) :
    (names ++ [last]).eraseDups = names.eraseDups ++ if last ∈ names then [] else [last] := by
  by_cases known : last ∈ names
  · simp [List.eraseDups_append, List.removeAll, known]
  · simp [List.eraseDups_append, List.removeAll, known, List.eraseDups_cons]

/-- What is kept of a list without its repetitions stands in the order in which
it first occurs. -/
theorem eraseDups_ordered (names : List String) :
    names.eraseDups.Pairwise fun name next => names.idxOf name < names.idxOf next := by
  induction names using List.reverseRecOn with
  | nil => exact .nil
  | append_singleton names last ih =>
    rw [eraseDups_concat, List.pairwise_append]
    refine ⟨ih.imp_of_mem fun {name next} member following before => ?_, ?_, ?_⟩
    · rwa [List.idxOf_append_of_mem (List.mem_eraseDups.mp member),
        List.idxOf_append_of_mem (List.mem_eraseDups.mp following)]
    · split
      · exact .nil
      · exact List.pairwise_singleton _ _
    · intro name member next final
      split at final
      · cases final
      · rename_i new
        have inside := List.mem_eraseDups.mp member
        rw [List.mem_singleton.mp final, List.idxOf_append_of_mem inside,
          List.idxOf_append_of_notMem new]
        exact Nat.lt_add_right _ (List.idxOf_lt_length_iff.mpr inside)

private theorem eraseDups_nodup (names : List String) : names.eraseDups.Nodup := by
  refine (eraseDups_ordered names).imp fun {name next} before => ?_
  rintro rfl
  exact Nat.lt_irrefl _ before

private theorem eraseDups_length (names : List String) :
    names.eraseDups.length = names.toFinset.card := by
  have same : names.eraseDups.toFinset = names.toFinset := by
    ext name
    simp
  rw [← same, List.toFinset_card_of_nodup (eraseDups_nodup names)]

/-! ## Grouping -/

/-- The declarations that use a route name, in order. The same declaration may
be listed twice. -/
def usersOf (descriptors : List Descriptor) (routeName : String) : List DeclarationId :=
  (descriptors.filter (·.routeName == routeName)).map (·.source)

private theorem usersOf_concat (descriptors : List Descriptor) (last : Descriptor)
    (routeName : String) :
    usersOf (descriptors ++ [last]) routeName = usersOf descriptors routeName ++
      if last.routeName = routeName then [last.source] else [] := by
  by_cases own : last.routeName = routeName <;> simp [usersOf, own]

section Groups
variable {names : List String} {users : String → List DeclarationId} {routeName : String}
  (user : DeclarationId)

/-- A name that has users keeps its place and gets one more. -/
theorem addUser_known (distinct : names.Nodup) (known : routeName ∈ names) :
    addUser routeName user (names.map fun name => (name, users name)) =
      names.map fun name =>
        (name, users name ++ if routeName = name then [user] else []) := by
  induction names with
  | nil => cases known
  | cons name rest ih =>
    obtain ⟨fresh, distinct⟩ := List.nodup_cons.mp distinct
    by_cases own : name = routeName
    · subst own
      have others : rest.map (fun other => (other, users other)) =
          rest.map fun other => (other, users other ++ if name = other then [user] else []) := by
        refine List.map_congr_left fun other member => ?_
        rw [if_neg (by rintro rfl; exact fresh member), List.append_nil]
      simp [addUser, others]
    · have later : routeName ∈ rest := by simpa [Ne.symm own] using known
      simp [addUser, own, Ne.symm own, ih distinct later]

/-- A name without users comes behind all others. -/
theorem addUser_new (new : routeName ∉ names) :
    addUser routeName user (names.map fun name => (name, users name)) =
      (names.map fun name => (name, users name)) ++ [(routeName, [user])] := by
  induction names with
  | nil => rfl
  | cons name rest ih =>
    obtain ⟨apart, later⟩ := not_or.mp (List.mem_cons.not.mp new)
    simp [addUser, Ne.symm apart, ih later]

end Groups

/-- The loop has all users of each name in order, and the names in the order of
first use. -/
theorem routeUsers_eq (descriptors : List Descriptor) : routeUsers descriptors =
    (descriptors.map (·.routeName)).eraseDups.map fun name => (name, usersOf descriptors name) := by
  induction descriptors using List.reverseRecOn with
  | nil => rfl
  | append_singleton descriptors last ih =>
    have step : routeUsers (descriptors ++ [last]) =
        addUser last.routeName last.source (routeUsers descriptors) := by
      simp [routeUsers]
    rw [step, ih, List.map_append, List.map_singleton, eraseDups_concat]
    simp only [usersOf_concat]
    by_cases known : last.routeName ∈ descriptors.map (·.routeName)
    · rw [addUser_known last.source (eraseDups_nodup _) (List.mem_eraseDups.mpr known),
        if_pos known, List.append_nil]
    · rw [addUser_new last.source (List.mem_eraseDups.not.mpr known), if_neg known,
        List.map_append, List.map_singleton, if_pos rfl]
      have unused : usersOf descriptors last.routeName = [] := by
        simpa [usersOf] using known
      have others : (descriptors.map (·.routeName)).eraseDups.map (fun name =>
          (name, usersOf descriptors name ++ if last.routeName = name then [last.source] else [])) =
          (descriptors.map (·.routeName)).eraseDups.map fun name =>
            (name, usersOf descriptors name) := by
        refine List.map_congr_left fun name member => ?_
        rw [if_neg (by rintro rfl; exact known (List.mem_eraseDups.mp member)), List.append_nil]
      rw [others, unused, List.nil_append]

/-! ## Places -/

section Places
variable {descriptors : List Descriptor} {descriptor first : Descriptor} {routeName : String}
  {place next : ℕ}

private theorem firstUse_le (here : descriptors[place]? = some descriptor) :
    firstUse descriptors descriptor.routeName ≤ place := by
  by_contra beyond
  obtain ⟨inside, rfl⟩ := List.getElem?_eq_some_iff.mp here
  have other := List.not_of_lt_findIdx (Nat.lt_of_not_le beyond)
  simp at other

private theorem firstUse_used (used : routeName ∈ descriptors.map (·.routeName)) :
    ∃ first, descriptors[firstUse descriptors routeName]? = some first ∧
      first.routeName = routeName := by
  have found := List.getElem?_idxOf used
  rwa [List.getElem?_map, Option.map_eq_some_iff] at found

private theorem reuses_iff (here : descriptors[place]? = some descriptor) :
    Reuses descriptors place ↔ firstUse descriptors descriptor.routeName < place := by
  constructor
  · rintro ⟨same, there, earlier, member, named⟩
    cases here.symm.trans there
    obtain ⟨index, before, rfl⟩ := List.mem_take_iff_getElem.mp member
    rw [lt_min_iff] at before
    rw [← named]
    exact Nat.lt_of_le_of_lt (firstUse_le (List.getElem?_eq_getElem before.2)) before.1
  · intro later
    obtain ⟨first, found, named⟩ := firstUse_used
      (List.mem_map.mpr ⟨descriptor, List.mem_of_getElem? here, rfl⟩)
    refine ⟨descriptor, here, first, ?_, named⟩
    rw [← List.getElem?_take_of_lt later] at found
    exact List.mem_of_getElem? found

private theorem Precedes.ne (precedes : Precedes descriptors place next) : place ≠ next := by
  rintro rfl
  obtain ⟨descriptor, other, here, there, before | ⟨-, before⟩⟩ := precedes
  · cases here.symm.trans there
    exact Nat.lt_irrefl _ before
  · exact Nat.lt_irrefl _ before

/-! ## The users of one name -/

/-- The descriptors of a route name with their places in the whole list. -/
def placed (descriptors : List Descriptor) (routeName : String) : List (Descriptor × ℕ) :=
  descriptors.zipIdx.filter (·.1.routeName == routeName)

private theorem mem_placed : (descriptor, place) ∈ placed descriptors routeName ↔
    descriptors[place]? = some descriptor ∧ descriptor.routeName = routeName := by
  simp [placed, List.mem_zipIdx_iff_getElem?]

private theorem placed_users (descriptors : List Descriptor) (routeName : String) :
    usersOf descriptors routeName = (placed descriptors routeName).map (·.1.source) := by
  have plain := List.zipIdx_map_fst 0 descriptors
  conv_lhs => rw [usersOf, ← plain, List.filter_map, List.map_map]
  rfl

private theorem placed_ordered (descriptors : List Descriptor) (routeName : String) :
    (placed descriptors routeName).Pairwise (·.2 < ·.2) := by
  refine List.Pairwise.filter _ (List.pairwise_map.mp ?_)
  rw [List.zipIdx_map_snd]
  exact List.pairwise_lt_range'

private theorem placed_first {rest : List (Descriptor × ℕ)}
    (split : placed descriptors routeName = (first, place) :: rest) :
    place = firstUse descriptors routeName := by
  have ordered := placed_ordered descriptors routeName
  rw [split, List.pairwise_cons] at ordered
  have own : (first, place) ∈ placed descriptors routeName := by simp [split]
  obtain ⟨here, rfl⟩ := mem_placed.mp own
  refine Nat.le_antisymm ?_ (firstUse_le here)
  obtain ⟨earliest, found, named⟩ := firstUse_used
    (List.mem_map.mpr ⟨first, List.mem_of_getElem? here, rfl⟩)
  have listed := mem_placed.mpr ⟨found, named⟩
  rw [split, List.mem_cons, Prod.mk.injEq] at listed
  rcases listed with ⟨-, same⟩ | later
  · exact Nat.le_of_eq same.symm
  · exact Nat.le_of_lt (ordered.1 _ later)

private theorem placed_later {rest : List (Descriptor × ℕ)}
    (split : placed descriptors routeName = (first, place) :: rest) :
    next ∈ rest.map (·.2) ↔ ∃ descriptor, descriptors[next]? = some descriptor ∧
      descriptor.routeName = routeName ∧ firstUse descriptors routeName < next := by
  obtain rfl := placed_first split
  constructor
  · intro member
    obtain ⟨⟨descriptor, next⟩, later, rfl⟩ := List.mem_map.mp member
    have ordered := placed_ordered descriptors routeName
    rw [split, List.pairwise_cons] at ordered
    have listed : (descriptor, next) ∈ placed descriptors routeName := by simp [split, later]
    obtain ⟨here, named⟩ := mem_placed.mp listed
    exact ⟨descriptor, here, named, ordered.1 _ later⟩
  · rintro ⟨descriptor, here, named, after⟩
    have listed := mem_placed.mpr ⟨here, named⟩
    rw [split] at listed
    rcases List.mem_cons.mp listed with same | later
    · exact absurd (congrArg Prod.snd same) (Nat.ne_of_gt after)
    · exact List.mem_map_of_mem later

/-- Each of the others is warned of, against the first one. -/
theorem placed_warned {rest : List (Descriptor × ℕ)}
    (split : placed descriptors routeName = (first, place) :: rest) :
    List.Forall₂ (WarnsAt descriptors) (reuses (routeName, usersOf descriptors routeName))
      (rest.map (·.2)) := by
  obtain rfl := placed_first split
  have origin : (first, firstUse descriptors routeName) ∈ placed descriptors routeName := by
    simp [split]
  rw [placed_users, split, List.map_cons, reuses, List.map_map, List.forall₂_map_left_iff,
    List.forall₂_map_right_iff, List.forall₂_same]
  rintro ⟨reuse, next⟩ later
  have listed : (reuse, next) ∈ placed descriptors routeName := by simp [split, later]
  obtain ⟨here, rfl⟩ := mem_placed.mp listed
  exact ⟨first, reuse, here, (mem_placed.mp origin).1, rfl, rfl, rfl, rfl⟩

/-- The warnings on the users of one name are those on the places that reuse
it. -/
theorem name_reported (descriptors : List Descriptor) (routeName : String) :
    ∃ places : List ℕ, places.Pairwise (· < ·) ∧
      (∀ place, place ∈ places ↔ ∃ descriptor, descriptors[place]? = some descriptor ∧
        descriptor.routeName = routeName ∧ firstUse descriptors routeName < place) ∧
      List.Forall₂ (WarnsAt descriptors) (reuses (routeName, usersOf descriptors routeName))
        places := by
  cases split : placed descriptors routeName with
  | nil =>
    refine ⟨[], .nil, fun place => iff_of_false List.not_mem_nil ?_, ?_⟩
    · rintro ⟨descriptor, here, named, -⟩
      have listed := mem_placed.mpr ⟨here, named⟩
      rw [split] at listed
      cases listed
    · rw [placed_users, split]
      exact .nil
  | cons head rest =>
    have ordered := placed_ordered descriptors routeName
    rw [split, List.pairwise_cons] at ordered
    exact ⟨rest.map (·.2), List.pairwise_map.mpr ordered.2, fun _ => placed_later split,
      placed_warned split⟩

/-- The warnings on the users of some names, one name after the other. -/
theorem names_reported {names : List String}
    (ordered : names.Pairwise (firstUse descriptors · < firstUse descriptors ·)) :
    ∃ places : List ℕ, places.Pairwise (Precedes descriptors) ∧
      (∀ place, place ∈ places ↔ ∃ descriptor, descriptors[place]? = some descriptor ∧
        descriptor.routeName ∈ names ∧ firstUse descriptors descriptor.routeName < place) ∧
      List.Forall₂ (WarnsAt descriptors)
        ((names.map fun name => (name, usersOf descriptors name)).flatMap reuses) places := by
  induction names with
  | nil => exact ⟨[], .nil, by simp, .nil⟩
  | cons name rest ih =>
    obtain ⟨before, ordered⟩ := List.pairwise_cons.mp ordered
    obtain ⟨own, increasing, ownPlaces, ownWarned⟩ := name_reported descriptors name
    obtain ⟨others, sorted, otherPlaces, otherWarned⟩ := ih ordered
    -- Within a name the places decide, and between names the first uses do.
    refine ⟨own ++ others, ?_, fun place => ?_, List.rel_append ownWarned otherWarned⟩
    · refine List.pairwise_append.mpr ⟨?_, sorted, ?_⟩
      · refine increasing.imp_of_mem fun {place next} member following earlier => ?_
        obtain ⟨descriptor, here, named, -⟩ := (ownPlaces place).mp member
        obtain ⟨other, there, same, -⟩ := (ownPlaces next).mp following
        exact ⟨descriptor, other, here, there, .inr ⟨named.trans same.symm, earlier⟩⟩
      · intro place member next following
        obtain ⟨descriptor, here, rfl, -⟩ := (ownPlaces place).mp member
        obtain ⟨other, there, listed, -⟩ := (otherPlaces next).mp following
        exact ⟨descriptor, other, here, there, .inl (before _ listed)⟩
    · rw [List.mem_append, ownPlaces, otherPlaces]
      constructor
      · rintro (⟨descriptor, here, rfl, after⟩ | ⟨descriptor, here, listed, after⟩)
        · exact ⟨descriptor, here, List.mem_cons_self, after⟩
        · exact ⟨descriptor, here, List.mem_cons_of_mem _ listed, after⟩
      · rintro ⟨descriptor, here, listed, after⟩
        rcases List.mem_cons.mp listed with rfl | later
        · exact .inl ⟨descriptor, here, rfl, after⟩
        · exact .inr ⟨descriptor, here, later, after⟩

end Places

/-! ## Counting -/

private theorem addUser_users (routeName : String) (user : DeclarationId)
    (groups : List (String × List DeclarationId)) :
    ((addUser routeName user groups).flatMap (·.2)).length =
      (groups.flatMap (·.2)).length + 1 := by
  induction groups with
  | nil => rfl
  | cons group rest ih =>
    obtain ⟨name, users⟩ := group
    rw [addUser]
    split
    · simp only [List.flatMap_cons, List.length_append, List.length_singleton]
      omega
    · simp only [List.flatMap_cons, List.length_append, ih]
      omega

private theorem routeUsers_users (descriptors : List Descriptor) :
    ((routeUsers descriptors).flatMap (·.2)).length = descriptors.length := by
  induction descriptors using List.reverseRecOn with
  | nil => rfl
  | append_singleton descriptors last ih =>
    rw [routeUsers, List.foldl_append, ← routeUsers, List.foldl_cons, List.foldl_nil,
      addUser_users, ih, List.length_append, List.length_singleton]

private theorem reuses_length {groups : List (String × List DeclarationId)}
    (used : ∀ group ∈ groups, group.2 ≠ []) :
    (groups.flatMap reuses).length + groups.length = (groups.flatMap (·.2)).length := by
  induction groups with
  | nil => rfl
  | cons group rest ih =>
    obtain ⟨nonempty, others⟩ := List.forall_mem_cons.mp used
    obtain ⟨first, users, split⟩ := List.exists_cons_of_ne_nil nonempty
    have warned : (reuses group).length = users.length := by
      rw [← Prod.mk.eta (p := group), split, reuses, List.length_map]
    simp only [List.flatMap_cons, List.length_append, List.length_cons, ← ih others, warned, split]
    omega

/-- There are as many warnings as descriptors are left over when every route
name is counted once. So the order of the list does not matter to their
number. -/
theorem warnings_counted (descriptors : List Descriptor) :
    (duplicateRoute.check descriptors).length + (descriptors.map (·.routeName)).toFinset.card =
      descriptors.length := by
  have used : ∀ group ∈ routeUsers descriptors, group.2 ≠ [] := by
    rw [routeUsers_eq]
    intro group member
    obtain ⟨name, listed, rfl⟩ := List.mem_map.mp member
    simpa [usersOf] using listed
  have counted := reuses_length used
  have names : (routeUsers descriptors).length =
      (descriptors.map (·.routeName)).toFinset.card := by
    rw [routeUsers_eq, List.length_map, eraseDups_length]
  rwa [routeUsers_users, names] at counted

/-! ## All warnings -/

private theorem warnings_reported (descriptors : List Descriptor) :
    ReportsReuse descriptors (duplicateRoute.check descriptors) := by
  have names : (descriptors.map (·.routeName)).eraseDups.Pairwise
      (firstUse descriptors · < firstUse descriptors ·) := eraseDups_ordered _
  obtain ⟨places, ordered, each, warned⟩ := names_reported names
  rw [← routeUsers_eq] at warned
  refine ⟨⟨places, ordered.imp Precedes.ne, ordered, fun place => ?_, warned⟩, ?_⟩
  · rw [each]
    constructor
    · rintro ⟨descriptor, here, -, later⟩
      exact (reuses_iff here).mpr later
    · rintro ⟨descriptor, here, earlier⟩
      exact ⟨descriptor, here, by simpa using ⟨_, List.mem_of_getElem? here, rfl⟩,
        (reuses_iff here).mp ⟨descriptor, here, earlier⟩⟩
  · have counted := warnings_counted descriptors
    omega

/-- For every list of descriptors the lint reports each reuse of a route name
once and against its first use, and as many of them in the reversed list. -/
theorem reuse_reported (descriptors : List Descriptor) :
    ReportsReuse descriptors (duplicateRoute.check descriptors) ∧
      (duplicateRoute.check descriptors.reverse).length =
        (duplicateRoute.check descriptors).length := by
  refine ⟨warnings_reported descriptors, ?_⟩
  have forward := warnings_counted descriptors
  have backward := warnings_counted descriptors.reverse
  rw [List.map_reverse, List.toFinset_reverse, List.length_reverse] at backward
  omega

/-- Reuses of two names that alternate are told name by name. -/
example : (duplicateRoute.check (["home", "detail", "home", "detail", "home"].zipIdx.map
    fun (routeName, place) => ⟨routeName, [], ⟨"", toString place⟩⟩)).map (·.message) = [
      "route 'home' of '2' is already used by '0'",
      "route 'home' of '4' is already used by '0'",
      "route 'detail' of '3' is already used by '1'"] := by
  decide +kernel

end TypedRoutes.RouteReuse
