import TypedRoutes.Command.Run

/-!
The program. It takes the nodes that a run can depend on from the disk into a file system value,
runs, and puts what the run changed back on the disk.
-/
namespace TypedRoutes.Disk

open Files

/-- The absolute path of a location. -/
def pathOf (location : Location) : String :=
  "/" ++ "/".intercalate location

/-- What the disk holds at a location. A file that cannot be read counts as missing. -/
def probe (location : Location) : IO (Option Node) := do
  let path := (← IO.currentDir) / pathOf location
  if ← path.isDir then return some .directory
  match ← (IO.FS.readBinFile path).toBaseIO with
  | .ok bytes => return some (.file bytes)
  | .error _ => return none

/-- A file system with the nodes that the disk holds at some locations. -/
def load (fs : FileSystem) (locations : List Location) : IO FileSystem :=
  locations.foldlM (fun fs location => do
    match ← probe location with
    | some node => return fs.put location node
    | none => return fs) fs

/-- Puts nodes on the disk. -/
def save (nodes : List (Location × Node)) : IO Unit :=
  nodes.forM fun (location, node) =>
    match node with
    | .directory => IO.FS.createDirAll (pathOf location)
    | .file bytes => IO.FS.writeBinFile (pathOf location) bytes

/-- The file system that the disk holds as far as a run can tell. What a run changes when it finds
only its sources is all that it can look at besides them. -/
def view (arguments : List String) : IO FileSystem := do
  let start := FileSystem.empty ((← IO.currentDir).components.filter (· != "")) none none
  let sources ← load start (Command.sources arguments start)
  let (_, trial) := Command.run arguments sources
  load sources ((trial.changedFrom sources).map (·.1))

end TypedRoutes.Disk

open TypedRoutes in
/-- Runs the program on the disk. -/
def main (arguments : List String) : IO UInt32 := do
  let before ← Disk.view arguments
  let (ending, files) := Command.run arguments before
  Disk.save (files.changedFrom before)
  IO.print ending.report.stdout
  IO.eprint ending.report.stderr
  return ending.status.code.toUInt32
