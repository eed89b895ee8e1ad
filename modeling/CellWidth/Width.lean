/-!
# Width classes

A terminal cannot show some code points, shows some without using a cell, and gives some two
cells. Each of these `Width`s gets a table; all other code points fill one cell and need none.

Two Unicode properties decide, each with a data file of its own: a `Property` declares the widths
that its file can give, and `classOf?` reads a property value.
-/

namespace CellWidth

/-- A class of code points that do not fill exactly one cell. -/
inductive Width where
  /-- Code points without an assigned category. -/
  | invalid
  /-- Combining marks and format characters: no cell. -/
  | zero
  /-- Wide and fullwidth characters: two cells. -/
  | double
deriving DecidableEq, Repr

namespace Width

/-- The widths in the order in which tables are written. -/
def all : List Width := [.invalid, .zero, .double]

/-- The name of the width's table. -/
def name : Width → String
  | .invalid => "invalid"
  | .zero => "zero_width"
  | .double => "double_width"

/-- The property values, written exactly so, whose code points have this width. -/
def labels : Width → List String
  | .invalid => ["Cn"]
  | .zero => ["Me", "Mn", "Cf"]
  | .double => ["W", "F"]

end Width

/-- A Unicode property that decides widths. -/
inductive Property where
  /-- General category, as in `DerivedGeneralCategory.txt`. -/
  | generalCategory
  /-- East Asian width, as in `EastAsianWidth.txt`. -/
  | eastAsianWidth
deriving DecidableEq, Repr

namespace Property

/-- The widths that the property's file can give, in the order of `Width.all`. -/
def widths : Property → List Width
  | .generalCategory => [.invalid, .zero]
  | .eastAsianWidth => [.double]

/-- The width that a property value gives; none for a value that needs no table. -/
def classOf? (property : Property) (label : String) : Option Width :=
  property.widths.find? fun width => label ∈ width.labels

/-- A property gives a width exactly when it declares it and the value is one of its labels. -/
theorem classOf?_eq_some {property : Property} {label : String} {width : Width} :
    property.classOf? label = some width ↔ width ∈ property.widths ∧ label ∈ width.labels := by
  cases property
  · by_cases hinv : label ∈ Width.invalid.labels
    · have hzero : label ∉ Width.zero.labels := by
        simp only [Width.labels, List.mem_singleton] at hinv
        subst hinv
        decide
      cases width <;> simp [classOf?, widths, hinv, hzero]
    · by_cases hzero : label ∈ Width.zero.labels <;>
        cases width <;> simp [classOf?, widths, hinv, hzero]
  · by_cases hdouble : label ∈ Width.double.labels <;>
      cases width <;> simp [classOf?, widths, hdouble]

end Property

end CellWidth
