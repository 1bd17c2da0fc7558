import TypedRoutes.Toml.Value

/-!
Tables under construction. How a table came about decides what may still be added to it: a header
opens a table once, dotted keys extend only tables that dotted keys made, a value is closed, and
an array of tables grows by headers and is extended through its last element.
-/
namespace TypedRoutes.Toml

/-- How a table came about. -/
inductive Origin where
  /-- As a parent in a header. -/
  | implied
  /-- As a parent in a dotted key. -/
  | dotted
  /-- By a header of its own. -/
  | header
deriving DecidableEq, Repr

/-- An entry of a table under construction. -/
inductive Item where
  | value (value : Value)
  | table (origin : Origin) (entries : List (String × Item))
  | tables (elements : List (List (String × Item)))

/-- The entries of a table under construction. -/
abbrev Entries := List (String × Item)

mutual

def Item.finish : Item → Value
  | .value value => value
  | .table _ entries => .table (finishEntries entries)
  | .tables elements => .array (finishTables elements)

def finishEntries : List (String × Item) → List (String × Value)
  | [] => []
  | (key, item) :: rest => (key, item.finish) :: finishEntries rest

/-- The elements of a finished array of tables. -/
def finishTables : List (List (String × Item)) → List Value
  | [] => []
  | entries :: rest => .table (finishEntries entries) :: finishTables rest

end

namespace Entries

/-- The entries with the item of one key replaced, or added at the end. -/
def assign (entries : Entries) (key : String) (item : Item) : Entries :=
  if entries.any (·.1 == key) then
    entries.map fun entry => if entry.1 == key then (key, item) else entry
  else
    entries ++ [(key, item)]

/-- A change to the last element of an array of tables. -/
def changeLast (change : Entries → Option Entries) : List Entries → Option (List Entries)
  | [] => none
  | [last] => (change last).map ([·])
  | first :: rest => (changeLast change rest).map (first :: ·)

/-- Adds a value under a dotted key, the parents first. -/
def insert (entries : Entries) (parents : List String) (key : String) (value : Value) :
    Option Entries :=
  match parents with
  | [] => if entries.any (·.1 == key) then none else some (entries ++ [(key, .value value)])
  | parent :: rest =>
    match entries.lookup parent with
    | none => do
      some (entries.assign parent (.table .dotted (← insert [] rest key value)))
    | some (.table origin inner) => do
      if origin = .header ∨ (rest.isEmpty ∧ origin ≠ .dotted) then none
      some (entries.assign parent (.table origin (← insert inner rest key value)))
    | some (.tables elements) => do
      if rest.isEmpty then none
      let elements ← changeLast (fun last => insert last rest key value) elements
      some (entries.assign parent (.tables elements))
    | some (.value _) => none

/-- Applies a change to the table that the keys of a header lead to. Missing tables on the way are
implied, and an array of tables stands for its last element. -/
def changeAt (change : Entries → Option Entries) (entries : Entries) :
    List String → Option Entries
  | [] => change entries
  | key :: rest =>
    match entries.lookup key with
    | none => do
      some (entries.assign key (.table .implied (← changeAt change [] rest)))
    | some (.table origin inner) => do
      some (entries.assign key (.table origin (← changeAt change inner rest)))
    | some (.tables elements) => do
      let elements ← changeLast (fun last => changeAt change last rest) elements
      some (entries.assign key (.tables elements))
    | some (.value _) => none

/-- Opens a table by a header. It may have been implied before, but not otherwise made. -/
def openTable (key : String) (entries : Entries) : Option Entries :=
  match entries.lookup key with
  | none => some (entries.assign key (.table .header []))
  | some (.table .implied inner) => some (entries.assign key (.table .header inner))
  | some _ => none

/-- Opens a further element of an array of tables by a header. -/
def openElement (key : String) (entries : Entries) : Option Entries :=
  match entries.lookup key with
  | none => some (entries.assign key (.tables [[]]))
  | some (.tables elements) => some (entries.assign key (.tables (elements ++ [[]])))
  | some _ => none

end Entries

end TypedRoutes.Toml
