import CellWidth.Command

/-!
# The program

Runs the command on the real file system. Core takes file names as texts, so that a path which is
not UTF-8 is refused here, and has no call that waits until bytes are on the disk: a file that was
created has been handed to the system, no more.
-/

namespace CellWidth

/-- A refusal of the real file system. -/
def FileFault.ofSystem (error : IO.Error) : FileFault :=
  match error with
  | .noFileOrDirectory .. => .notFound
  | .inappropriateType _ 20 _ => .notDirectory
  | .inappropriateType _ 21 _ => .isDirectory
  | .resourceBusy 16 _ => .busy
  | .invalidArgument _ 36 _ => .nameTooLong
  | .permissionDenied _ code details =>
    .other (details ++ " (os error " ++ toString code ++ ")")
  | _ => .other error.toString

namespace Files

/-- An action on the real file system, whose refusal is a result. -/
def observed {α : Type} (action : IO α) : IO (Except FileFault α) := do
  match ← action.toBaseIO with
  | .ok a => return .ok a
  | .error error => return .error (.ofSystem error)

/-- The name by which the system is asked for a path. -/
def Path.systemName (path : Path) : IO String :=
  match Text.Utf8.decode? path.bytes with
  | some name => return .ofList name
  | none => throw (.userError "file name is not UTF-8")

/-- The real file system. -/
instance : FileSystem IO where
  openFile path := do
    match ← observed (do IO.FS.Handle.mk (← path.systemName) .read) with
    | .error fault => return .error fault
    | .ok handle =>
      let content ← observed handle.readBinToEnd
      return .ok (content.map fun bytes => bytes.toList)
  create path bytes := observed do
    let handle ← IO.FS.Handle.mk (← path.systemName) .write
    handle.write (ByteArray.mk bytes.toArray)
    handle.flush
  rename source target := observed do
    IO.FS.rename (← source.systemName) (← target.systemName)
  remove path := do
    discard <| observed (do IO.FS.removeFile (← path.systemName))

end Files

end CellWidth

def main (arguments : List String) : IO UInt32 := do
  let arguments := arguments.map CellWidth.Text.Utf8.encode
  let outcome ← (CellWidth.Command.run arguments : IO CellWidth.Outcome)
  (← IO.getStdout).putStr outcome.output
  (← IO.getStderr).putStr outcome.report
  return outcome.code
