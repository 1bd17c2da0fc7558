import Mathlib.Data.String.Basic
import TypedRoutes.Layout.Builder

/-! The line buffer as a pure layout. Its text is that of the trees that have been
appended, in order and in however many steps: every line stands behind one unit
of indentation for each block around it. The depth that the buffer counts on the
way never shows, because each step leaves it where it has found it. -/
namespace TypedRoutes.BufferedLayout
open Layout

/-- A step in the use of a buffer. What is emitted counts as the fragments that
it is lowered to. -/
inductive Step where
  | line (content : String)
  | blank
  | emit (fragments : List Fragment)

/-- What a step makes of a buffer. -/
def Step.perform (builder : Builder) : Step → Builder
  | .line content => builder.pushLine content
  | .blank => builder.pushBlank
  | .emit fragments => builder.pushAll fragments

/-- The buffer that steps lead to from an empty one. -/
def run (indent : Indent) (steps : List Step) : Builder :=
  steps.foldl Step.perform { indent }

/-- What a step appends, as trees. It does not depend on what is in the buffer.
-/
def Step.trees : Step → List Fragment
  | .line content => [.line content]
  | .blank => [.blank]
  | .emit fragments => fragments

/-- All that steps append, in order and with no trace of which step it came
from. -/
def forest (steps : List Step) : List Fragment :=
  steps.flatMap Step.trees

/-- The text of one level of indentation, which is empty for an indent of no
spaces. -/
def level : Indent → String
  | .spaces width => String.ofList (List.replicate width ' ')
  | .tab => "\t"

/-- The text of a row, with a copy of the unit for each level it is deep. No unit
stands in a blank row, whatever is around it. -/
def drawn (indent : Indent) : Row → String
  | .text depth content => String.join (List.replicate depth (level indent)) ++ content ++ "\n"
  | .blank => "\n"

/-- The text of trees, from their rows in preorder. It is told without a buffer
and without a depth that changes. -/
def drawing (indent : Indent) (trees : List Fragment) : String :=
  String.join ((rowsOf 0 trees).map (drawn indent))

/-- A line of some trees with the number of blocks around it. The header and the
end of a block are not inside it. -/
inductive Nested : List Fragment → Nat → String → Prop where
  | line {trees content} (here : .line content ∈ trees) : Nested trees 0 content
  | header {trees header body close} (here : .block header body close ∈ trees) :
    Nested trees 0 header
  | close {trees header body content} (here : .block header body (some content) ∈ trees) :
    Nested trees 0 content
  | inside {trees header body close depth content} (here : .block header body close ∈ trees)
    (within : Nested body depth content) : Nested trees (depth + 1) content

/-- What the steps in the use of a buffer come to: its text, how deep each line
stands, and that it does not matter how nodes are dealt out over steps. -/
structure LaidOut (indent : Indent) (steps : List Step) : Prop where
  text : (run indent steps).text = drawing indent (forest steps)
  nested : ∀ depth content,
    .text depth content ∈ rowsOf 0 (forest steps) ↔ Nested (forest steps) depth content
  top : (run indent steps).depth = 0
  appends : ∀ step,
    (run indent (steps ++ [step])).text = (run indent steps).text ++ drawing indent step.trees
  singly : ∀ fragments,
    run indent (steps ++ [.emit fragments]) = run indent (steps ++ fragments.map (.emit [·]))
  /-- Nodes of any kind, however many fragments one of them stands for. -/
  nodes : ∀ {Node : Type} (lower : Node → List Fragment) (nodes : List Node),
    run indent (steps ++ [.emit (nodes.flatMap lower)]) =
      run indent (steps ++ nodes.map (.emit <| lower ·))

/-! ## Units of indentation -/

private theorem text_deeper (indent : Indent) (depth : Nat) :
    indent.text (depth + 1) = level indent ++ indent.text depth := by
  cases indent with
  | spaces width =>
    rw [Indent.text, Nat.mul_succ, Nat.add_comm, ← List.replicate_append_replicate,
      String.ofList_append]
    rfl
  | tab =>
    rw [Indent.text, List.replicate_succ, ← List.singleton_append, String.ofList_append]
    rfl

private theorem text_copies (indent : Indent) (depth : Nat) :
    indent.text depth = String.join (List.replicate depth (level indent)) := by
  induction depth with
  | zero => cases indent <;> rfl
  | succ depth ih => rw [text_deeper, ih, List.replicate_succ, String.join_cons]

private theorem renderRows_drawn (indent : Indent) (rows : List Row) :
    renderRows indent rows = String.join (rows.map (drawn indent)) := by
  have same : Row.render indent = drawn indent := by
    funext row
    cases row with
    | text depth content => rw [Row.render, text_copies, drawn]
    | blank => rfl
  rw [renderRows, same]

private theorem drawing_append (indent : Indent) (first second : List Fragment) :
    drawing indent (first ++ second) = drawing indent first ++ drawing indent second := by
  rw [drawing, rowsOf_append, List.map_append, String.join_append, drawing, drawing]

/-! ## Depth of rows -/

section Depth
variable {trees : List Fragment} {depth : Nat} {content : String}

private theorem mem_rowsOf {row : Row} :
    row ∈ rowsOf depth trees ↔ ∃ tree ∈ trees, row ∈ tree.rows depth := by
  induction trees with
  | nil => simp [rowsOf]
  | cons tree rest ih => simp [rowsOf, ih]

private theorem Nested.mono {others : List Fragment} (nested : Nested trees depth content)
    (included : trees ⊆ others) : Nested others depth content := by
  cases nested with
  | line here => exact .line (included here)
  | header here => exact .header (included here)
  | close here => exact .close (included here)
  | inside here within => exact .inside (included here) within

private theorem Nested.row (nested : Nested trees depth content) (base : Nat) :
    .text (base + depth) content ∈ rowsOf base trees := by
  induction nested generalizing base with
  | line here => exact mem_rowsOf.mpr ⟨_, here, by simp [Fragment.rows]⟩
  | header here => exact mem_rowsOf.mpr ⟨_, here, by simp [Fragment.rows]⟩
  | close here => exact mem_rowsOf.mpr ⟨_, here, by simp [Fragment.rows]⟩
  | inside here within ih =>
    -- The body is laid out one level deeper, so its rows are counted from there.
    have row := ih (base + 1)
    rw [Nat.add_right_comm] at row
    exact mem_rowsOf.mpr ⟨_, here, by simp [Fragment.rows, ← Nat.add_assoc, row]⟩

mutual

theorem row_nested {base : Nat} {tree : Fragment} (row : .text depth content ∈ tree.rows base) :
    ∃ below, depth = base + below ∧ Nested [tree] below content := by
  cases tree with
  | line text =>
    obtain ⟨rfl, rfl⟩ : depth = base ∧ content = text := by simpa [Fragment.rows] using row
    exact ⟨0, rfl, .line (List.mem_singleton_self _)⟩
  | blank => simp [Fragment.rows] at row
  | block header body close =>
    rw [Fragment.rows, List.mem_cons, List.mem_append] at row
    rcases row with first | inner | last
    · obtain ⟨rfl, rfl⟩ : depth = base ∧ content = header := by simpa using first
      exact ⟨0, rfl, .header (List.mem_singleton_self _)⟩
    · obtain ⟨below, rfl, nested⟩ := rowsOf_nested inner
      exact ⟨below + 1, by omega, .inside (List.mem_singleton_self _) nested⟩
    · obtain ⟨rfl, rfl⟩ : close = some content ∧ base = depth := by simpa using last
      exact ⟨0, rfl, .close (List.mem_singleton_self _)⟩

private theorem rowsOf_nested {base : Nat} {trees : List Fragment}
    (row : .text depth content ∈ rowsOf base trees) :
    ∃ below, depth = base + below ∧ Nested trees below content := by
  cases trees with
  | nil => simp [rowsOf] at row
  | cons tree rest =>
    rw [rowsOf, List.mem_append] at row
    rcases row with first | later
    · obtain ⟨below, deep, nested⟩ := row_nested first
      exact ⟨below, deep, nested.mono (by simp)⟩
    · obtain ⟨below, deep, nested⟩ := rowsOf_nested later
      exact ⟨below, deep, nested.mono (List.subset_cons_self _ _)⟩

end

/-- A row stands as deep as there are blocks around its line. Depth is counted
along the way on one side, and known from the tree on the other. -/
theorem row_iff_nested : .text depth content ∈ rowsOf 0 trees ↔ Nested trees depth content := by
  constructor
  · intro row
    obtain ⟨below, deep, nested⟩ := rowsOf_nested row
    rwa [deep, Nat.zero_add]
  · intro nested
    simpa using nested.row 0

end Depth

/-! ## Steps -/

/-- Each step appends trees, one after the other. -/
theorem perform_trees (builder : Builder) (step : Step) :
    step.perform builder = builder.pushAll step.trees := by
  cases step <;> rfl

/-- So do all steps together, from wherever they start. -/
theorem foldl_forest (builder : Builder) (steps : List Step) :
    steps.foldl Step.perform builder = builder.pushAll (forest steps) := by
  induction steps generalizing builder with
  | nil => rfl
  | cons step rest ih =>
    rw [List.foldl_cons, ih, perform_trees, ← Builder.pushAll_append, forest, forest,
      List.flatMap_cons]

private theorem forest_append (first second : List Step) :
    forest (first ++ second) = forest first ++ forest second :=
  List.flatMap_append

/-- Nodes that are emitted together leave the same trees as one by one. -/
theorem forest_emits {Node : Type} (steps : List Step) (lower : Node → List Fragment)
    (nodes : List Node) : forest (steps ++ [.emit (nodes.flatMap lower)]) =
      forest (steps ++ nodes.map (.emit <| lower ·)) := by
  have together : forest [.emit (nodes.flatMap lower)] = nodes.flatMap lower :=
    List.flatMap_singleton _ _
  have apart : forest (nodes.map (.emit <| lower ·)) = nodes.flatMap lower := by
    rw [forest, List.flatMap_map]
    rfl
  rw [forest_append, forest_append, together, apart]

/-- A buffer is what its trees make of an empty one, and its depth is zero again
after every step. -/
theorem run_forest (indent : Indent) (steps : List Step) :
    run indent steps = { indent, depth := 0, text := drawing indent (forest steps) } := by
  rw [run, foldl_forest, Builder.pushAll_rows, renderRows_drawn, String.empty_append]
  rfl

/-- Only the trees of the steps matter, and not how they are dealt out. -/
theorem run_congr {indent : Indent} {steps others : List Step}
    (same : forest steps = forest others) : run indent steps = run indent others := by
  rw [run_forest, run_forest, same]

/-- The buffer holds what is appended to it, each line as deep as it is nested and
each step for itself. -/
theorem buffer_laid_out (indent : Indent) (steps : List Step) : LaidOut indent steps where
  text := by rw [run_forest]
  nested depth content := row_iff_nested
  top := by rw [run_forest]
  appends step := by
    have single : forest [step] = step.trees := List.flatMap_singleton _ _
    rw [run_forest, run_forest, forest_append, drawing_append, single]
  singly fragments := by
    have same := forest_emits steps ([·]) fragments
    rw [List.flatMap_singleton'] at same
    exact run_congr same
  nodes lower nodes := run_congr (forest_emits steps lower nodes)

/-- A block without an end and one without a body, in one another and with a line
after them. -/
example :
    (run (.spaces 2) [.emit [.block "a" [.block "b" [] (some "c"), .blank] none], .line "d"]).text =
      "a\n  b\n  c\n\nd\n" := by decide +kernel

end TypedRoutes.BufferedLayout
