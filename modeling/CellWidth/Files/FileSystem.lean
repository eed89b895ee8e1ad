import CellWidth.Files.FileTree

/-!
# File systems

What a program needs of a file system, so that it is written once and runs on the real one as well
as on a `FileTree`.
-/

namespace CellWidth.Files

/-- The operations on files that a program uses. -/
class FileSystem (m : Type → Type) where
  /-- Opens a file; its bytes may be refused in turn. -/
  openFile : Path → m (Except FileFault (Except FileFault (List UInt8)))
  /-- Writes a file from its beginning. -/
  create : Path → List UInt8 → m (Except FileFault Unit)
  /-- Moves a file over another one. -/
  rename : Path → Path → m (Except FileFault Unit)
  /-- Removes a file if there is one. -/
  remove : Path → m Unit

/-- A change that either gives a new tree or is refused and leaves the tree. -/
def attempt (change : FileTree → Except FileFault FileTree) :
    StateM FileTree (Except FileFault Unit) := fun t =>
  match change t with
  | .ok t' => (.ok (), t')
  | .error fault => (.error fault, t)

/-- File trees are a file system. -/
instance : FileSystem (StateM FileTree) where
  openFile path := fun t => (t.openFile path, t)
  create path contents := attempt fun t => t.create path contents
  rename source target := attempt fun t => t.rename source target
  remove path := fun t => ((), t.remove path)

end CellWidth.Files
