/-!
Indented code as a tree. A fragment says nothing about the depth it ends up at: its rows carry the
depth, and an indentation unit turns rows into text. A block keeps its header and closing line with
its body, so a laid-out tree is balanced whatever its lines hold.
-/
namespace TypedRoutes.Layout

/-- One level of indentation: some spaces, or a tab. -/
inductive Indent where
  | spaces (width : Nat)
  | tab
deriving DecidableEq, Repr

/-- The text of `depth` levels of indentation. -/
def Indent.text (indent : Indent) (depth : Nat) : String :=
  match indent with
  | .spaces width => String.ofList (List.replicate (width * depth) ' ')
  | .tab => String.ofList (List.replicate depth '\t')

/-- A piece of code at a depth yet to be chosen. A block has its header and its end with it, so that
delimiters match. -/
inductive Fragment where
  | line (text : String)
  /-- An empty line, never indented. -/
  | blank
  /-- A body one level deeper than its header and its closing line, if there is one. -/
  | block (header : String) (body : List Fragment) (close : Option String)
deriving Repr

/-- One line of laid-out code. A blank one has no depth, as it is never indented. -/
inductive Row where
  | text (depth : Nat) (content : String)
  | blank
deriving DecidableEq, Repr

/-- The text of a row with its line break. -/
def Row.render (indent : Indent) : Row → String
  | .text depth content => indent.text depth ++ content ++ "\n"
  | .blank => "\n"

mutual

/-- The rows of a fragment whose own lines stand at the given depth. -/
def Fragment.rows (depth : Nat) : Fragment → List Row
  | .line text => [.text depth text]
  | .blank => [.blank]
  | .block header body close =>
    .text depth header :: (rowsOf (depth + 1) body ++ (close.map (Row.text depth)).toList)

/-- The rows of fragments one after the other. -/
def rowsOf (depth : Nat) : List Fragment → List Row
  | [] => []
  | fragment :: rest => fragment.rows depth ++ rowsOf depth rest

end

def renderRows (indent : Indent) (rows : List Row) : String :=
  String.join (rows.map (Row.render indent))

theorem rowsOf_append (depth : Nat) (first second : List Fragment) :
    rowsOf depth (first ++ second) = rowsOf depth first ++ rowsOf depth second := by
  induction first with
  | nil => rfl
  | cons fragment rest ih => simp [rowsOf, ih]

theorem renderRows_append (indent : Indent) (first second : List Row) :
    renderRows indent (first ++ second) = renderRows indent first ++ renderRows indent second := by
  rw [renderRows, List.map_append, String.join_append, renderRows, renderRows]

end TypedRoutes.Layout
