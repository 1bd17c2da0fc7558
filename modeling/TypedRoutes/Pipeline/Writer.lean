import TypedRoutes.Pipeline.Pass

/-!
Writers of generated units: into memory, or below a directory of a file system together with a
record of what every written file depends on.
-/
namespace TypedRoutes.Pipeline

/-- The writer that keeps units in memory, all of which count as written. -/
def memoryWriter : Writer (List GeneratedUnit) := fun unit => do
  modify (· ++ [unit])
  return .written

/-- A written file and what it depends on, for a build tool to read. -/
structure DependencyRecord where
  path : String
  dependencies : Dependencies
deriving DecidableEq, Repr

/-- A file system and the records of the files that were written to it. -/
abbrev Workspace := Files.FileSystem × List DependencyRecord

/-- The path of a unit below an output directory. -/
def GeneratedUnit.pathBelow (base : String) (unit : GeneratedUnit) : String :=
  Files.Path.join base unit.relativePath

/-- The writer to an output directory. A file is recorded once writing it has not failed, whether
or not it had to change. -/
def directoryWriter (base : String) : Writer Workspace := fun unit => do
  let outcome ← (Run.ofFiles
    (Files.writeText (unit.pathBelow base) unit.content .ifChanged)).onFirst
  modify fun (fs, records) => (fs, records ++ [⟨unit.pathBelow base, unit.dependencies⟩])
  return outcome

end TypedRoutes.Pipeline
