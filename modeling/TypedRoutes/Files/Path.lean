/-!
Path texts. A path is kept as it was written and compared by components: repeated separators, a
trailing separator and inner `.` components do not count, while a leading `.` and every `..` do.
-/
namespace TypedRoutes.Files.Path

/-- The pieces of a path between its separators, empty ones included. A path can be put together
from them again. -/
def pieces (path : String) : List String :=
  (path.toList.splitOn '/').map String.ofList

def isAbsolute (path : String) : Bool :=
  path.toList.head? == some '/'

/-- Whether a piece names no component after the first place, so that a path leads where it would
without it. -/
def isIdle (piece : String) : Bool :=
  piece == "" || piece == "."

/-- The components of a path: a separator for the root of an absolute path, a `.` that comes first,
and every name and `..`. -/
def components (path : String) : List String :=
  match pieces path with
  | [] => []
  | first :: rest =>
    (if isAbsolute path then ["/"] else if first == "" then [] else [first]) ++
      rest.filter (!isIdle ·)

/-- Whether two paths are equal by components, which two spellings of one path are. -/
def same (first second : String) : Bool :=
  components first == components second

/-- The last piece of a path, trailing separators aside. -/
def lastPiece? (path : String) : Option String :=
  ((pieces path).reverse.dropWhile (· == "")).head?

/-- Whether a path ends in `.`, and so enters a directory that has to be there already. -/
def endsInDot (path : String) : Bool :=
  lastPiece? path == some "."

/-- The pieces up to the last one that is not idle, none when all of them are. -/
def trimIdle (rest : List String) : List String :=
  (rest.reverse.dropWhile isIdle).reverse

/-- The path of the containing directory, as a leading part of the text. The root and the empty
path have none. -/
def parent? (path : String) : Option String :=
  match pieces path with
  | [] => none
  | first :: rest =>
    match trimIdle rest with
    | [] => if first == "" then none else some ""
    | named =>
      match trimIdle named.dropLast with
      | [] => some (if first == "" then "/" else first)
      | above => some ("/".intercalate (first :: above))

/-- A path followed by another: an absolute one replaces it, a relative one is appended behind a
separator if there is none yet. -/
def join (base path : String) : String :=
  if isAbsolute path then path
  else if base == "" || base.toList.getLast? == some '/' then base ++ path
  else base ++ "/" ++ path

/-- The paths that are equal by components to no earlier one, each in its first spelling. -/
def distinct (paths : List String) : List String :=
  paths.foldl (fun kept path => if kept.any (same path) then kept else kept ++ [path]) []

end TypedRoutes.Files.Path
