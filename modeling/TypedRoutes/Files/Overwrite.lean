import TypedRoutes.Files.FileSystem

/-!
Writing generated text. By default a file that already holds the text is left untouched, so a
rebuild that depends on modification times sees only what changed.
-/
namespace TypedRoutes.Files

/-- What to do with a file that is already there. -/
inductive Overwrite where
  /-- Replace it. -/
  | always
  /-- Replace it only if its text differs. -/
  | ifChanged
deriving DecidableEq, Repr

/-- What became of one file: it was written, or it was found as it should be. -/
inductive WriteOutcome where
  | written
  | unchanged
deriving DecidableEq, Repr

def WriteOutcome.label : WriteOutcome → String
  | .written => "written"
  | .unchanged => "unchanged"

/-- Writes text to a path, with the directories above it. Comparing needs the old text, so an
existing file that cannot be read as text is an error under `ifChanged`. -/
def writeText (path text : String) (policy : Overwrite) : FileAction WriteOutcome := do
  let fs ← get
  if policy = .ifChanged ∧ fs.pathExists path = true then
    match fs.readText path with
    | .error failure => throw failure
    | .ok current => if current = text then return .unchanged
  FileSystem.writeWithParents path text.toUTF8
  return .written

end TypedRoutes.Files
