import CellWidth.Files.Publish
import CellWidth.Text.Quoted

/-!
# The command line

Three paths: the general category file, the East Asian width file, and the listing to write. The
dialect follows from the listing's path. Arguments are bytes, as paths are.

* `Request.ofArguments? arguments` : what the arguments ask for. Help is asked for by one argument
  among all; otherwise an argument is a path whatever it looks like.
* `Command.run arguments` : exit code and texts. Nothing is printed to standard output unless the
  listing was written; then it is one line of counts for each table.
* A `Complaint` ends the run with code 1. Its report lists the faults that it rests on, one to a
  line, and numbers them if there are several.
-/

namespace CellWidth

open Files (Path FileSystem)

/-- An argument, as its bytes. -/
abbrev Argument := List UInt8

/-- What the arguments ask for. -/
inductive Request where
  | help
  | make (general eastAsian output : Path)
deriving DecidableEq, Repr

/-- Why the command did not write a listing. -/
inductive Complaint where
  /-- A path is missing; `argument` says which. -/
  | missing (argument : String)
  /-- There are arguments behind the three paths. -/
  | unrecognized (arguments : List Argument)
  /-- No tables were made. -/
  | notMade (fault : Fault)
  /-- The tables were made, but not written. -/
  | notWritten (output : Path) (fault : Fault)
deriving DecidableEq, Repr

/-- How a command ends. -/
structure Outcome where
  code : UInt32
  output : String
  report : String
deriving DecidableEq, Repr

/-- What `--help` prints. -/
def usage : String :=
  "usage: wcwidth_bakery <DerivedGeneralCategory.txt> <EastAsianWidth.txt> <output>\n\n" ++
    "output ending in .rs is written as a Rust module, anything else as a C header\n"

/-! ## Arguments -/

/-- What the arguments ask for; the first path that is missing, or what is too much. -/
def Request.ofArguments? (arguments : List Argument) : Except Complaint Request :=
  if Text.Utf8.encode "-h" ∈ arguments ∨ Text.Utf8.encode "--help" ∈ arguments then .ok .help
  else
    match arguments with
    | [] => .error (.missing "path to DerivedGeneralCategory.txt")
    | [_] => .error (.missing "path to EastAsianWidth.txt")
    | [_, _] => .error (.missing "output path")
    | [general, eastAsian, output] => .ok (.make ⟨general⟩ ⟨eastAsian⟩ ⟨output⟩)
    | _ :: _ :: _ :: more => .error (.unrecognized more)

/-! ## Complaints -/

namespace Complaint

/-- The wording of a complaint. -/
def message : Complaint → String
  | missing argument => "missing " ++ argument
  | unrecognized arguments =>
    "unrecognized arguments: " ++ Text.quotedList arguments ++ "\n\n" ++ usage
  | notMade fault => fault.message
  | notWritten output _ => "failed to write " ++ output.display

/-- The wordings of the faults that a complaint rests on, the nearest first. -/
def causes : Complaint → List String
  | missing _ => ["free-standing argument is missing"]
  | unrecognized _ => []
  | notMade fault => fault.cause?.toList
  | notWritten _ fault => fault.message :: fault.cause?.toList

/-- A text whose further lines stand as far right as its first one. -/
def indented (lead : String) (text : String) : String :=
  let pad := String.ofList (List.replicate lead.length ' ')
  lead ++ String.join (text.toList.map fun c => if c = '\n' then "\n" ++ pad else .ofList [c])

/-- The lines under `Caused by:`. -/
def causeLines : List String → List String
  | [] => []
  | [cause] => [indented "    " cause]
  | causes => causes.zipIdx.map fun (cause, i) =>
    indented (.ofList ((toString i).toList.leftpad 5 ' ') ++ ": ") cause

/-- The report of a complaint. -/
def report (complaint : Complaint) : String :=
  let causes := causeLines complaint.causes
  "Error: " ++ complaint.message ++
    (if causes = [] then "" else "\n\nCaused by:\n" ++ "\n".intercalate causes) ++ "\n"

end Complaint

/-! ## Running -/

namespace Command

variable {m : Type → Type} [Monad m] [FileSystem m]

/-- Makes the tables of two files and writes their listing. -/
def make (general eastAsian output : Path) : m (Except Complaint Tables) := do
  match (← Files.build general eastAsian).result with
  | .error fault => return .error (.notMade fault)
  | .ok tables =>
    match (← Files.write output tables).result with
    | .error fault => return .error (.notWritten output fault)
    | .ok () => return .ok tables

/-- Does what a request asks for. -/
def perform : Request → m (Except Complaint Outcome)
  | .help => return .ok ⟨0, "", usage⟩
  | .make general eastAsian output => do
    match ← make general eastAsian output with
    | .error complaint => return .error complaint
    | .ok tables =>
      let counts := tables.summaries.map fun summary => summary.display ++ "\n"
      return .ok ⟨0, String.join counts, ""⟩

/-- Runs the command. -/
def run (arguments : List Argument) : m Outcome := do
  let outcome ← match Request.ofArguments? arguments with
    | .error complaint => pure (.error complaint)
    | .ok request => perform request
  match outcome with
  | .ok outcome => return outcome
  | .error complaint => return ⟨1, "", complaint.report⟩

end Command

end CellWidth
