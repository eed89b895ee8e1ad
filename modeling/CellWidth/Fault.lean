import CellWidth.Record
import CellWidth.Width

/-!
# Faults

Everything that can stop the making of tables, as causes. The wording is in one function for each
type: `FileFault.message` for what a file system refuses, `Fault.message` for the whole.

A fault may rest on another one; `Fault.cause?` is the wording of that, and the fault's own
message ends in it.
-/

namespace CellWidth

/-- Why a file could not be opened, read or written. -/
inductive FileFault where
  | notFound
  | notDirectory
  | isDirectory
  | busy
  | nameTooLong
  /-- The path names no file: it is empty, a root, or ends in `..`. -/
  | noFileName
  /-- The path holds a NUL byte. -/
  | nulInPath
  /-- What was read is not UTF-8. -/
  | notUtf8
  /-- Any other refusal, in the system's words. -/
  | other (text : String)
deriving DecidableEq, Repr

/-- The wording of a refusal; the system's own carry their number. -/
def FileFault.message : FileFault → String
  | notFound => "No such file or directory (os error 2)"
  | notDirectory => "Not a directory (os error 20)"
  | isDirectory => "Is a directory (os error 21)"
  | busy => "Device or resource busy (os error 16)"
  | nameTooLong => "File name too long (os error 36)"
  | noFileName => "no file name"
  | nulInPath => "file name contained an unexpected NUL byte"
  | notUtf8 => "stream did not contain valid UTF-8"
  | other text => text

/-- Why no tables were made. -/
inductive Fault where
  /-- A line, counted from one, that is neither blank nor a comment nor a record; `text` is the
  line without the blanks around it. -/
  | malformed (name : String) (line : Nat) (text : String) (reason : RecordFault)
  /-- No range at all has the width. -/
  | emptyTable (width : Width)
  /-- The entry, counted from zero, does not lie behind the one before it with a gap between. -/
  | unordered (width : Width) (entry : Nat)
  /-- The file system refused. -/
  | file (path : String) (reason : FileFault)
deriving DecidableEq, Repr

namespace Fault

/-- The wording of a fault. -/
def message : Fault → String
  | malformed name line text reason =>
    name ++ ":" ++ toString line ++ ": malformed record `" ++ text ++ "`: " ++ reason.message
  | emptyTable width => "no codepoint ranges found for class `" ++ width.name ++ "`"
  | unordered width entry =>
    "table `" ++ width.name ++ "` is not sorted and disjoint at entry " ++ toString entry
  | file path reason => path ++ ": " ++ reason.message

/-- The wording of the fault that this one rests on. -/
def cause? : Fault → Option String
  | malformed _ _ _ reason => some reason.message
  | emptyTable _ => none
  | unordered _ _ => none
  | file _ reason => some reason.message

end Fault

end CellWidth
