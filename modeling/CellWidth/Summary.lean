import CellWidth.Table

/-!
# Summaries

The counts of one table: how many entries, how many code values in them, and how many bytes the
table takes.
-/

namespace CellWidth

/-- The counts of one table. -/
structure Summary where
  width : Width
  /-- The number of entries. -/
  entries : Nat
  /-- The number of code values, counted once for each entry that holds them. -/
  codepoints : Nat
deriving DecidableEq, Repr

namespace Summary

/-- The counts of a list of ranges as it stands. -/
def ofRanges (width : Width) (ranges : List CodeRange) : Summary where
  width := width
  entries := ranges.length
  codepoints := CodeRange.totalSize ranges

/-- The size of the table in bytes: two 32-bit numbers for each entry. -/
def bytes (s : Summary) : Nat :=
  8 * s.entries

/-- One line: `zero_width: 2 ranges, 113 codepoints, 16 b`. -/
def display (s : Summary) : String :=
  s.width.name ++ ": " ++ toString s.entries ++ " ranges, " ++ toString s.codepoints ++
    " codepoints, " ++ toString s.bytes ++ " b"

end Summary

end CellWidth
