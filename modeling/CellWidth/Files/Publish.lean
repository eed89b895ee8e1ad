import CellWidth.Files.FileSystem
import CellWidth.Listing

/-!
# Sources and listings in files

* `openSource path` : the source in a file, named by its path.
* `build general eastAsian` : the tables of two files.
* `publish path text` : replaces a file in one step. The text goes to a temporary file beside the
  target, which is then renamed over it; after a refusal the temporary file is removed, and the
  target is as it was.
* `write path tables` : publishes the listing of tables in the dialect that the path asks for.
  Tables that fail the check touch no file.
-/

namespace CellWidth

open Files (Path FileSystem)

/-- Paths that end in `.rs` ask for a Rust module, all others for a C header. -/
def Dialect.ofPath (path : Path) : Dialect :=
  if path.extension? = some (Text.Utf8.encode "rs") then .rust else .c

namespace Files

variable {m : Type → Type} [Monad m] [FileSystem m]

/-- The source in a file, named by its path. -/
def openSource (path : Path) : m (Except Fault Source) := do
  match ← FileSystem.openFile path with
  | .error reason => return .error (.file path.display reason)
  | .ok content => return .ok ⟨path.display, content⟩

/-- The tables of two files. Both are opened before either is read. -/
def build (general eastAsian : Path) : m (Run Tables) := do
  match ← openSource general with
  | .error fault => return .ofExcept (.error fault)
  | .ok general =>
    match ← openSource eastAsian with
    | .error fault => return .ofExcept (.error fault)
    | .ok eastAsian => return Tables.build general eastAsian

/-- Writes the temporary file and renames it over the target. -/
def replaceVia (temporary target : Path) (bytes : List UInt8) : m (Except FileFault Unit) := do
  match ← FileSystem.create temporary bytes with
  | .error reason => return .error reason
  | .ok () => FileSystem.rename temporary target

/-- Replaces a file in one step, or leaves it as it was. -/
def publish (path : Path) (text : String) : m (Run Unit) := do
  match path.temporary? with
  | none => return .ofExcept (.error (.file path.display .noFileName))
  | some temporary =>
    let bytes := Text.Utf8.encode text
    match ← replaceVia temporary path bytes with
    | .ok () => return .note [.written path.display bytes.length]
    | .error reason =>
      FileSystem.remove temporary
      return .ofExcept (.error (.file path.display reason))

/-- Publishes the listing of tables. -/
def write (path : Path) (tables : Tables) : m (Run Unit) :=
  match Listing.render? (.ofPath path) tables with
  | .error fault => return .ofExcept (.error fault)
  | .ok text => publish path text

end Files

end CellWidth
