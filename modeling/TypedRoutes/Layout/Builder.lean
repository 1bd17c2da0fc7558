import TypedRoutes.Layout.Fragment

/-!
A line buffer that tracks nesting depth. Code is appended step by step; a block raises the depth for
its body and restores it before its closing line.
-/
namespace TypedRoutes.Layout

/-- The text written so far and the depth of the next line. Text is only ever appended. -/
structure Builder where
  indent : Indent
  depth : Nat := 0
  text : String := ""

namespace Builder

/-- Appends one line at the current depth. -/
def pushLine (builder : Builder) (content : String) : Builder :=
  { builder with text := builder.text ++ builder.indent.text builder.depth ++ content ++ "\n" }

def pushBlank (builder : Builder) : Builder :=
  { builder with text := builder.text ++ "\n" }

/-- Makes the following lines one level deeper. -/
def deeper (builder : Builder) : Builder :=
  { builder with depth := builder.depth + 1 }

/-- Makes the following lines one level less deep. -/
def shallower (builder : Builder) : Builder :=
  { builder with depth := builder.depth - 1 }

mutual

/-- Appends a fragment at the current depth. A block makes its body one level deeper and comes
back. -/
def push (builder : Builder) : Fragment → Builder
  | .line text => builder.pushLine text
  | .blank => builder.pushBlank
  | .block header body close =>
    let inner := ((builder.pushLine header).deeper.pushAll body).shallower
    match close with
    | some text => inner.pushLine text
    | none => inner

def pushAll (builder : Builder) : List Fragment → Builder
  | [] => builder
  | fragment :: rest => (builder.push fragment).pushAll rest

end

/-- The text of fragments laid out from an empty buffer. -/
def layOut (indent : Indent) (fragments : List Fragment) : String :=
  ((⟨indent, 0, ""⟩ : Builder).pushAll fragments).text

mutual

/-- A fragment adds its rows at the depth of the builder, which stays there. -/
theorem push_rows (builder : Builder) (fragment : Fragment) :
    builder.push fragment = { builder with
      text := builder.text ++ renderRows builder.indent (fragment.rows builder.depth) } := by
  cases fragment with
  | line text => simp [push, pushLine, Fragment.rows, renderRows, Row.render, String.append_assoc]
  | blank => simp [push, pushBlank, Fragment.rows, renderRows, Row.render]
  | block header body close =>
    -- The closing line comes after the depth has been restored.
    cases close <;>
      simp [push, pushAll_rows, pushLine, deeper, shallower, Fragment.rows, renderRows, Row.render,
        String.append_assoc]

theorem pushAll_rows (builder : Builder) (fragments : List Fragment) :
    builder.pushAll fragments = { builder with
      text := builder.text ++ renderRows builder.indent (rowsOf builder.depth fragments) } := by
  cases fragments with
  | nil => simp [pushAll, rowsOf, renderRows]
  | cons fragment rest =>
    simp [pushAll, push_rows, pushAll_rows, rowsOf, renderRows_append, String.append_assoc]

end

/-- Fragments can be appended in two goes. -/
theorem pushAll_append (builder : Builder) (first second : List Fragment) :
    builder.pushAll (first ++ second) = (builder.pushAll first).pushAll second := by
  induction first generalizing builder with
  | nil => rfl
  | cons fragment rest ih => rw [List.cons_append, pushAll, pushAll, ih]

/-- Laid-out fragments are their rows, one after the other. -/
theorem layOut_rows (indent : Indent) (fragments : List Fragment) :
    layOut indent fragments = renderRows indent (rowsOf 0 fragments) := by
  rw [layOut, pushAll_rows]
  exact String.empty_append

end Builder

end TypedRoutes.Layout
