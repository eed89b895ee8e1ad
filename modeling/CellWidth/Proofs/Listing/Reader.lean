import CellWidth.Text.Cut
import CellWidth.Text.Lines
import CellWidth.Proofs.Listing.Signs

/-!
# Reading listings

A reader for the texts that `Listing.table` and `Listing.render?` write.

* `Listing.read? known text` : the tables of a text in the dialects that are known, each with its
  name and the bounds of its entries as they stand there. A line that neither begins a table nor
  holds entries is skipped, and so is a header.
* `Listing.tables? text` : the same in all dialects, with widths and ranges.
-/

namespace CellWidth

open Text (cut? trim)

namespace Dialect

/-- All dialects. -/
def all : List Dialect := [.c, .rust]

theorem mem_all (dialect : Dialect) : dialect ∈ all := by
  cases dialect <;> decide

/-- The words in front of the name of a table. -/
def keyword : Dialect → String
  | c => "static const struct ucs_range "
  | rust => "pub const "

/-- The sign behind the name of a table. -/
def nameEnd : Dialect → Char
  | c => '['
  | rust => ':'

end Dialect

namespace Listing

/-- A table as it stands in a text. -/
structure Found where
  dialect : Dialect
  name : String
  entries : List (Nat × Nat)
deriving DecidableEq, Repr

/-- A numeral without the marks in front of it. -/
def unmarked : List Char → List Char
  | '0' :: 'x' :: text => unmarked text
  | text => text

/-- The number of a numeral, which may have a plus in front, if 32 bits hold it. -/
def readNumber? : List Char → Option Nat
  | '+' :: numeral => (Text.Hex.value? numeral).filter (· < codeLimit)
  | numeral => (Text.Hex.value? numeral).filter (· < codeLimit)

/-- The number of a bound. -/
def readBound? (text : List Char) : Option Nat :=
  readNumber? (unmarked text)

/-- The bounds of an entry, whose right bracket has been cut off. -/
def readPair? (dialect : Dialect) (text : List Char) : Option (Nat × Nat) := do
  let (start, stop) ← cut? [',', ' '] (text.dropWhile (· ∈ [',', ' ', dialect.leftSign]))
  return (← readBound? start, ← readBound? stop)

/-- A piece of a row holds the mark of a bound. -/
def holdsBound (piece : List Char) : Bool :=
  (cut? ['0', 'x'] piece).isSome

/-- The bounds of the entries in a row. -/
def readRow? (dialect : Dialect) (row : List Char) : Option (List (Nat × Nat)) :=
  ((row.splitOn dialect.rightSign).filter holdsBound).mapM (readPair? dialect)

/-- The table with more entries. -/
def Found.extend (table : Found) (entries : List (Nat × Nat)) : Found :=
  { table with entries := table.entries ++ entries }

/-- Reads one line; the tables found so far come last one first. -/
def readLine? (known : List Dialect) (found : List Found) (line : List Char) :
    Option (List Found) :=
  match known.find? fun dialect => dialect.keyword.toList.isPrefixOf line with
  | some dialect =>
    let name := (line.drop dialect.keyword.toList.length).takeWhile (· ≠ dialect.nameEnd)
    some (⟨dialect, .ofList name, []⟩ :: found)
  | none =>
    match known.find? fun dialect => dialect.rowMark.isPrefixOf (trim line) with
    | none => some found
    | some dialect =>
      match found with
      | [] => none
      | table :: earlier =>
        (readRow? dialect (trim line)).map fun entries => table.extend entries :: earlier

/-- Reads on in a text, line by line, with some tables found before. -/
def readFrom? (known : List Dialect) (found : List Found) (text : List Char) :
    Option (List Found) :=
  (Text.lines text).foldlM (readLine? known) found

/-- The tables of a text in the dialects that are known. -/
def read? (known : List Dialect) (text : String) : Option (List Found) :=
  (readFrom? known [] text.toList).map List.reverse

/-- The width and the ranges of a table that was found. -/
def Found.table? (found : Found) : Option (Dialect × Width × List CodeRange) := do
  let width ← Width.all.find? fun width => found.dialect.tableName width = found.name
  let ranges ← found.entries.mapM fun entry => CodeRange.ofBounds? entry.1 entry.2
  return (found.dialect, width, ranges)

/-- The tables of a text in any dialect. -/
def tables? (text : String) : Option (List (Dialect × Width × List CodeRange)) := do
  (← read? Dialect.all text).mapM Found.table?

end Listing

end CellWidth
