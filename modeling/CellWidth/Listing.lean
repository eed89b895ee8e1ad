import CellWidth.Tables

/-!
# Listings

Tables as source text, for programs to include.

* `Dialect` : the language of the text, a C header or a Rust module.
* `Listing.rows` : the entries of a table, three to a row, with a comma after each but the last.
* `Listing.table` : a table with its name around the rows; it checks nothing.
* `Listing.render?` : a whole file, if all three tables pass `Table.check`.
-/

namespace CellWidth

/-- The language of a listing. -/
inductive Dialect where
  /-- A C header: arrays of `struct ucs_range`. -/
  | c
  /-- A Rust module: slices of pairs. -/
  | rust
deriving DecidableEq, Repr

namespace Listing

/-! ## Rows -/

/-- The entries, three to a row. -/
def inRows : List CodeRange → List (List CodeRange)
  | a :: b :: c :: rest => [a, b, c] :: inRows rest
  | [] => []
  | row => [row]

/-- A bound: at least five lower-case digits. -/
def bound (code : Nat) : String :=
  "0x" ++ .ofList (Text.Hex.padded .lower 5 code)

/-- One entry between brackets. -/
def entry (left right : String) (r : CodeRange) : String :=
  left ++ bound r.start ++ ", " ++ bound r.stop ++ right

/-- One row without its end. -/
def row (left right : String) (entries : List CodeRange) : String :=
  "    " ++ ", ".intercalate (entries.map (entry left right))

/-- All rows, each on a line of its own, with a comma between an entry and the next. -/
def rows (left right : String) (ranges : List CodeRange) : String :=
  if ranges = [] then ""
  else ",\n".intercalate ((inRows ranges).map (row left right)) ++ "\n"

end Listing

/-! ## Dialects -/

namespace Dialect

/-- What stands in front of the tables. -/
def header : Dialect → String
  | c =>
    "#pragma once\n#include <stdint.h>\n\nstruct ucs_range \x7b\n    uint32_t start;\n" ++
      "    uint32_t stop;\n\x7d;\n"
  | rust =>
    "// generated by wcwidth_bakery, do not edit\n" ++
      "// ranges are sorted by start, disjoint and non-adjacent\n"

/-- The name of a width's table, in the case that the language has for constants. -/
def tableName : Dialect → Width → String
  | c, .invalid => "ucs_invalid"
  | c, .zero => "ucs_zero_width"
  | c, .double => "ucs_double_width"
  | rust, .invalid => "UCS_INVALID"
  | rust, .zero => "UCS_ZERO_WIDTH"
  | rust, .double => "UCS_DOUBLE_WIDTH"

/-- The line that begins the table of a width. -/
def opening (dialect : Dialect) (width : Width) : String :=
  match dialect with
  | c => "static const struct ucs_range " ++ dialect.tableName width ++ "[] = \x7b\n"
  | rust => "pub const " ++ dialect.tableName width ++ ": &[(u32, u32)] = &[\n"

/-- The line that ends a table. -/
def closing : Dialect → String
  | c => "\x7d;\n"
  | rust => "];\n"

/-- The bracket in front of an entry. -/
def left : Dialect → String
  | c => "\x7b"
  | rust => "("

/-- The bracket behind an entry. -/
def right : Dialect → String
  | c => "\x7d"
  | rust => ")"

end Dialect

/-! ## Tables and files -/

namespace Listing

/-- The table of a width, whatever its ranges. -/
def table (dialect : Dialect) (width : Width) (ranges : List CodeRange) : String :=
  dialect.opening width ++ rows dialect.left dialect.right ranges ++ dialect.closing

/-- A blank line and the table of a width, if it passes the check. -/
def section? (dialect : Dialect) (tables : Tables) (width : Width) : Except Fault String :=
  match Table.check width (tables.get width) with
  | .error fault => .error fault
  | .ok () => .ok ("\n" ++ table dialect width (tables.get width))

/-- The whole file, if all three tables pass the check. -/
def render? (dialect : Dialect) (tables : Tables) : Except Fault String := do
  let sections ← Width.all.mapM (section? dialect tables)
  return dialect.header ++ String.join sections

end Listing

end CellWidth
