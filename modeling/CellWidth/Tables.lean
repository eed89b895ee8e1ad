import CellWidth.Source

/-!
# The three tables

* `Tables` : one list of ranges for each width.
* `Tables.build general eastAsian` : the tables of two property files. Each file is read once and
  to its end before the next step; then the tables are made in the order of `Width.all`.
-/

namespace CellWidth

/-- One list of ranges for each width. Only `build` promises that they are tables. -/
structure Tables where
  invalid : List CodeRange
  zero : List CodeRange
  double : List CodeRange
deriving DecidableEq, Repr

namespace Tables

/-- No ranges at all. -/
def empty : Tables := ⟨[], [], []⟩

/-- The ranges of a width. -/
def get (tables : Tables) : Width → List CodeRange
  | .invalid => tables.invalid
  | .zero => tables.zero
  | .double => tables.double

/-- The counts of the three tables, in the order of `Width.all`. -/
def summaries (tables : Tables) : List Summary :=
  Width.all.map fun width => .ofRanges width (tables.get width)

/-- Makes the table of a width from the ranges of that width, and logs its counts. -/
def tableOf (width : Width) (ranges : List CodeRange) : Run (List CodeRange) := do
  let table ← Run.ofExcept (Table.ofRanges? width ranges)
  Run.note [.tabled (.ofRanges width table)]
  return table

/-- The tables of a general category file and an East Asian width file. -/
def build (general eastAsian : Source) : Run Tables := do
  let categories ← general.survey .generalCategory
  let widths ← eastAsian.survey .eastAsianWidth
  let invalid ← tableOf .invalid (Property.generalCategory.rangesOf .invalid categories)
  let zero ← tableOf .zero (Property.generalCategory.rangesOf .zero categories)
  let double ← tableOf .double (Property.eastAsianWidth.rangesOf .double widths)
  return ⟨invalid, zero, double⟩

end Tables

end CellWidth
