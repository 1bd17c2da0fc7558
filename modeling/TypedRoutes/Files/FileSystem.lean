import TypedRoutes.Files.Path

/-!
A file system as a value. Nodes are held by location, the list of names from the root, and paths are
resolved against them name by name. An operation that fails keeps whatever it did before failing.
-/
namespace TypedRoutes.Files

/-- Where a node is: the names that lead to it from the root. -/
abbrev Location := List String

/-- What a location can hold. There are no links, so a location is reached in one way only. -/
inductive Node where
  | file (bytes : ByteArray)
  | directory

/-- Files are equal when their bytes are. -/
instance : DecidableEq Node
  | .file first, .file second =>
    decidable_of_iff (first.data = second.data) (by cases first; cases second; simp)
  | .file _, .directory => .isFalse (by simp)
  | .directory, .file _ => .isFalse (by simp)
  | .directory, .directory => .isTrue rfl

/-- Why a file operation fails. -/
inductive FileError where
  | notFound
  | notADirectory
  | isADirectory
  | notText
  | badName
deriving DecidableEq, Repr

/-- The nodes below the root, and the directory that relative paths start from. A location without a
node is empty. -/
structure FileSystem where
  nodes : List (Location × Node)
  workdir : Location := []
  /-- The size in bytes of the longest name that the file system takes, if it sets a limit. -/
  nameLimit : Option Nat := none
  /-- The size in bytes of the longest path that the file system takes, if it sets a limit. -/
  pathLimit : Option Nat := none

/-- An operation on a file system that may fail and keeps its effects when it does. -/
abbrev FileAction (α : Type) := ExceptT FileError (StateM FileSystem) α

namespace FileSystem

/-- An empty file system whose working directory exists. -/
def empty (workdir : Location) (nameLimit pathLimit : Option Nat) : FileSystem where
  nodes := (List.range workdir.length).map fun n => (workdir.take (n + 1), .directory)
  workdir := workdir
  nameLimit := nameLimit
  pathLimit := pathLimit

/-- The node at a location. The root is always a directory. -/
def node? (fs : FileSystem) (location : Location) : Option Node :=
  if location.isEmpty then some .directory else fs.nodes.lookup location

/-- The file system with one node put in place of what was there. What lies below it is not looked
at. -/
def put (fs : FileSystem) (location : Location) (node : Node) : FileSystem :=
  { fs with nodes := fs.nodes.filter (·.1 != location) ++ [(location, node)] }

/-- The file system without a location and what lies below it. -/
def remove (fs : FileSystem) (location : Location) : FileSystem :=
  { fs with nodes := fs.nodes.filter (!location.isPrefixOf ·.1) }

/-- Whether a text keeps within a limit on its size in bytes. -/
def within (limit : Option Nat) (text : String) : Bool :=
  limit.all (text.utf8ByteSize ≤ ·)

/-- Whether a name can be looked up at all. -/
def acceptsName (fs : FileSystem) (name : String) : Bool :=
  within fs.nameLimit name

/-- Whether a path can be resolved at all. It must not be too long nor hold a null character. -/
def acceptsPath (fs : FileSystem) (path : String) : Bool :=
  within fs.pathLimit path && !path.toList.contains '\x00'

/-- Where resolving a path begins, and the pieces that are left to resolve. The empty path leads
nowhere. -/
def origin (fs : FileSystem) (path : String) : Except FileError (Location × List String) :=
  if path == "" then .error .notFound
  else if !fs.acceptsPath path then .error .badName
  else .ok (if Path.isAbsolute path then [] else fs.workdir, Path.pieces path)

/-- The location that pieces lead to. Every location left behind must be a directory; the last one
need not exist. -/
def walk (fs : FileSystem) (location : Location) : List String → Except FileError Location
  | [] => .ok location
  | piece :: rest =>
    match fs.node? location with
    | none => .error .notFound
    | some (.file _) => .error .notADirectory
    | some .directory =>
      if Path.isIdle piece then fs.walk location rest
      else if piece == ".." then fs.walk location.dropLast rest
      else if fs.acceptsName piece then fs.walk (location ++ [piece]) rest
      else .error .badName

/-- The location that a path names, whether or not anything is there. -/
def resolve (fs : FileSystem) (path : String) : Except FileError Location := do
  let (location, rest) ← fs.origin path
  fs.walk location rest

/-- The locations that pieces lead through when every one of them exists, the last one included. -/
def stops (location : Location) : List String → List Location
  | [] => [location]
  | piece :: rest =>
    location ::
      (if Path.isIdle piece then stops location rest
      else if piece == ".." then stops location.dropLast rest
      else stops (location ++ [piece]) rest)

/-- The locations whose nodes decide what a path names. -/
def itinerary (fs : FileSystem) (path : String) : List Location :=
  match fs.origin path with
  | .ok (location, rest) => stops location rest
  | .error _ => []

/-- The nodes of a file system that another one does not have, or has otherwise. -/
def changedFrom (fs old : FileSystem) : List (Location × Node) :=
  fs.nodes.filter fun (location, node) => old.node? location != some node

def pathExists (fs : FileSystem) (path : String) : Bool :=
  match fs.resolve path with
  | .ok location => (fs.node? location).isSome
  | .error _ => false

/-- The bytes of the file that a path names. -/
def readBytes (fs : FileSystem) (path : String) : Except FileError ByteArray := do
  match fs.node? (← fs.resolve path) with
  | some (.file bytes) => .ok bytes
  | some .directory => .error .isADirectory
  | none => .error .notFound

/-- The text of the file that a path names, which must be UTF-8. -/
def readText (fs : FileSystem) (path : String) : Except FileError String := do
  match String.fromUTF8? (← fs.readBytes path) with
  | some text => .ok text
  | none => .error .notText

/-- Makes every directory that pieces lead through, creating those that are missing. Those that were
made stay when a later one cannot be. -/
def makeDirectories (location : Location) : List String → FileAction Unit
  | [] => pure ()
  | piece :: rest => do
    if Path.isIdle piece then makeDirectories location rest
    else if piece == ".." then makeDirectories location.dropLast rest
    else
      let fs ← get
      if !fs.acceptsName piece then throw .badName
      let next := location ++ [piece]
      match fs.node? next with
      | some .directory => makeDirectories next rest
      | some (.file _) => throw .notADirectory
      | none => do
        set (fs.put next .directory)
        makeDirectories next rest

/-- Makes a directory with its parents. The empty path asks for nothing, and a path that ends in `.`
for the parents of a directory that is there already. -/
def createDirectory (path : String) : FileAction Unit := do
  if path == "" then return
  match (← get).origin path with
  | .error failure => throw failure
  | .ok (location, rest) =>
    if Path.endsInDot path then
      makeDirectories location ((Path.parent? path).elim [] Path.pieces)
      match (← get).resolve path with
      | .error failure => throw failure
      | .ok _ => pure ()
    else makeDirectories location rest

/-- Replaces the bytes of a file, creating it inside an existing directory. -/
def writeBytes (path : String) (bytes : ByteArray) : FileAction Unit := do
  let fs ← get
  match fs.resolve path with
  | .error failure => throw failure
  | .ok location =>
    match fs.node? location with
    | some .directory => throw .isADirectory
    | _ => set (fs.put location (.file bytes))

/-- Replaces the text of a file, creating it and the directories above it. -/
def writeWithParents (path : String) (bytes : ByteArray) : FileAction Unit := do
  match Path.parent? path with
  | some above => createDirectory above
  | none => pure ()
  writeBytes path bytes

/-- Deletes a directory that has been emptied. The path is resolved anew: if it led through what the
directory held, the directory stays without that being a failure. A path that ends in `.` or `..`
cannot be used to delete anything. -/
def deleteEmptied (path : String) : FileAction Unit := do
  let fs ← get
  match fs.resolve path with
  | .error _ => pure ()
  | .ok location =>
    match Path.lastPiece? path with
    | some "." | some ".." => throw .badName
    | _ => set (fs.remove location)

/-- Deletes a file, or a directory after everything in it. -/
def delete (path : String) : FileAction Unit := do
  let fs ← get
  match fs.resolve path with
  | .error failure => throw failure
  | .ok location =>
    match fs.node? location with
    | none => throw .notFound
    | some (.file _) => set (fs.remove location)
    | some .directory =>
      set ((fs.remove location).put location .directory)
      deleteEmptied path

/-- Everything below the working directory in code point order: files by their path, and
directories without content by their path and a separator. -/
def listing (fs : FileSystem) : List String :=
  let below := fs.nodes.filter fun entry =>
    fs.workdir.isPrefixOf entry.1 && entry.1.length > fs.workdir.length
  let named := below.filterMap fun (location, node) =>
    let path := "/".intercalate (location.drop fs.workdir.length)
    match node with
    | .file _ => some path
    | .directory =>
      if below.any fun other => location.isPrefixOf other.1 && other.1 != location then none
      else some (path ++ "/")
  named.mergeSort fun first second => !(second < first)

end FileSystem

end TypedRoutes.Files
