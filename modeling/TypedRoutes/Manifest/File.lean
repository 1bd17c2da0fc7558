import TypedRoutes.Files.FileSystem
import TypedRoutes.Manifest.Decode

/-!
Manifest files. Paths inside a manifest are relative to the directory that holds it.
-/
namespace TypedRoutes.Manifest

/-- A manifest with the path and text that it was read from. -/
structure File where
  path : String
  content : String
  manifest : Manifest

namespace File

/-- Reads a manifest file. A file that is missing and one that is no text fail alike. -/
def load (fs : Files.FileSystem) (path : String) : Except Error File :=
  match fs.readText path with
  | .error _ => .error (.unreadable path)
  | .ok content => do return ⟨path, content, ← parse content path⟩

/-- The directory that holds the manifest. -/
def baseDir (file : File) : String :=
  (Files.Path.parent? file.path).getD "."

/-- The output directory that the manifest asks for. -/
def outDir (file : File) : String :=
  Files.Path.join file.baseDir file.manifest.settings.outDir

end File

end TypedRoutes.Manifest
