/-!
# Lines of a text

A text of bytes or of characters, cut at its newlines.

* `lines text` : a newline ends a line, and a carriage return right before it belongs to the end.
  A carriage return elsewhere is text. What follows the last newline is a line if it is not empty.
-/

namespace CellWidth.Text

/-- An alphabet with the two signs that end a line. -/
class LineSigns (α : Type) where
  newline : α
  carriageReturn : α
  newline_ne_carriageReturn : newline ≠ carriageReturn

export LineSigns (newline carriageReturn newline_ne_carriageReturn)

instance : LineSigns UInt8 := ⟨10, 13, by decide⟩

instance : LineSigns Char := ⟨'\n', '\r', by decide⟩

variable {α : Type} [DecidableEq α] [LineSigns α]

/-- A text without the carriage return at its end; the text is given last sign first. -/
def chomp : List α → List α
  | [] => []
  | a :: rest => if a = carriageReturn then rest.reverse else (a :: rest).reverse

/-- The lines of a text, `begun` being what has been read of the first one, last sign first. -/
def linesFrom (begun : List α) : List α → List (List α)
  | [] => if begun = [] then [] else [begun.reverse]
  | a :: text =>
    if a = newline then chomp begun :: linesFrom [] text else linesFrom (a :: begun) text

/-- The lines of a text, without their ends. -/
def lines (text : List α) : List (List α) :=
  linesFrom [] text

end CellWidth.Text
