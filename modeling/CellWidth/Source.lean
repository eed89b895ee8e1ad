import CellWidth.Run
import CellWidth.Text.Lines
import CellWidth.Text.Utf8

/-!
# Sources

A source is a named run of bytes, read line by line.

* `Source.records source` : the records of all lines in order, or the fault of the first bad line.
* `Source.survey property source` : the same as a run, which logs how many ranges of each width
  the file gave once it has been read to its end.
-/

namespace CellWidth

/-- A named run of bytes. Its content may turn out to be unreadable only when it is read, as that
of a directory does. -/
structure Source where
  name : String
  content : Except FileFault (List UInt8)

namespace Source

/-- A source that is held in memory. -/
def ofBytes (name : String) (bytes : List UInt8) : Source :=
  ⟨name, .ok bytes⟩

/-- What one line says; `index` counts the lines before it. -/
def recordAt (source : Source) (line : List UInt8) (index : Nat) :
    Except Fault (Option Record) :=
  match Text.Utf8.decode? line with
  | none => .error (.file source.name .notUtf8)
  | some text =>
    match Record.ofLine? text with
    | .error reason =>
      .error (.malformed source.name (index + 1) (.ofList (Text.trim text)) reason)
    | .ok record? => .ok record?

/-- The records of numbered lines; the first bad line ends the reading. -/
def recordsOf (source : Source) (numbered : List (List UInt8 × Nat)) :
    Except Fault (List Record) := do
  let read ← numbered.mapM fun entry => source.recordAt entry.1 entry.2
  return read.filterMap id

/-- The records of all lines, in order. -/
def records (source : Source) : Except Fault (List Record) :=
  match source.content with
  | .error reason => .error (.file source.name reason)
  | .ok bytes => source.recordsOf (Text.lines bytes).zipIdx

end Source

/-- The ranges of the records whose property value gives the width, in order. -/
def Property.rangesOf (property : Property) (width : Width) (records : List Record) :
    List CodeRange :=
  records.filterMap fun record =>
    if property.classOf? record.label = some width then some record.range else none

/-- Reads a file to its end and logs how many ranges of each width it gave. -/
def Source.survey (source : Source) (property : Property) : Run (List Record) := do
  let records ← Run.ofExcept source.records
  Run.note <| property.widths.map fun width =>
    .surveyed source.name (property.rangesOf width records).length width
  return records

end CellWidth
