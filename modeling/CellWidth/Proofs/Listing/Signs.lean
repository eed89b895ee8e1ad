import CellWidth.Listing
import CellWidth.Proofs.Text.Hex

/-!
# The signs of a listing

A listing is written piece by piece as a string. Here are its pieces as lists of signs, down to the
marks that a reader goes by.

* `boundSigns`, `entrySigns`, `rowSigns` : the signs of a bound, of an entry without its right
  bracket, and of a row without its indent.
* `flatten_inRows` : the rows hold all entries in order.
-/

namespace CellWidth

open Text.Hex (IsDigit not_mem_padded)

namespace Dialect

/-- The sign in front of an entry. -/
def leftSign : Dialect → Char
  | c => '\x7b'
  | rust => '('

/-- The sign behind an entry. -/
def rightSign : Dialect → Char
  | c => '\x7d'
  | rust => ')'

/-- How a row of entries begins. -/
def rowMark (dialect : Dialect) : List Char :=
  [dialect.leftSign, '0', 'x']

variable {d : Dialect}

theorem left_toList : d.left.toList = [d.leftSign] := by
  cases d <;> simp [left, leftSign]

theorem right_toList : d.right.toList = [d.rightSign] := by
  cases d <;> simp [right, rightSign]

end Dialect

namespace Listing

variable {d : Dialect} {r : CodeRange} {code : Nat} {c : Char} {entries : List CodeRange}

/-! ## Bounds and entries -/

/-- The signs of a bound. -/
def boundSigns (code : Nat) : List Char :=
  '0' :: 'x' :: Text.Hex.padded .lower 5 code

/-- The signs of an entry but the right bracket. -/
def entrySigns (d : Dialect) (r : CodeRange) : List Char :=
  d.leftSign :: (boundSigns r.start ++ ',' :: ' ' :: boundSigns r.stop)

theorem bound_toList (code : Nat) : (bound code).toList = boundSigns code := by
  simp [bound, boundSigns]

theorem entry_toList (d : Dialect) (r : CodeRange) :
    (entry d.left d.right r).toList = entrySigns d r ++ [d.rightSign] := by
  simp [entry, entrySigns, bound_toList, Dialect.left_toList, Dialect.right_toList]

/-- Digits and the mark in front of them are all that stands in a bound. -/
theorem not_mem_boundSigns (hdigit : ¬ IsDigit c) (hx : c ≠ 'x') : c ∉ boundSigns code := by
  have hzero : c ≠ '0' := by
    rintro rfl
    exact hdigit (by decide)
  simp [boundSigns, hzero, hx, not_mem_padded hdigit]

/-- A sign that is no bracket, stands in no bound and separates nothing is not in an entry. -/
theorem not_mem_entrySigns (hdigit : ¬ IsDigit c) (hx : c ≠ 'x') (hleft : c ≠ d.leftSign)
    (hcomma : c ≠ ',') (hspace : c ≠ ' ') : c ∉ entrySigns d r := by
  simp [entrySigns, hleft, hcomma, hspace, not_mem_boundSigns hdigit hx]

theorem rightSign_not_mem_entrySigns : d.rightSign ∉ entrySigns d r := by
  cases d <;> exact not_mem_entrySigns (by decide) (by decide) (by decide) (by decide) (by decide)

theorem newline_not_mem_entrySigns : Text.newline ∉ entrySigns d r := by
  cases d <;> exact not_mem_entrySigns (by decide) (by decide) (by decide) (by decide) (by decide)

/-! ## Rows -/

/-- The signs of the entries of a row. -/
def rowSigns (d : Dialect) (entries : List CodeRange) : List Char :=
  [',', ' '].intercalate (entries.map fun r => entrySigns d r ++ [d.rightSign])

theorem row_toList (d : Dialect) (entries : List CodeRange) :
    (row d.left d.right entries).toList = "    ".toList ++ rowSigns d entries := by
  rw [row, String.toList_append, String.toList_intercalate, List.map_map]
  simp [rowSigns, Function.comp_def, entry_toList]

theorem rowSigns_cons_cons (r next : CodeRange) (entries : List CodeRange) :
    rowSigns d (r :: next :: entries) =
      entrySigns d r ++ d.rightSign :: ([',', ' '] ++ rowSigns d (next :: entries)) := by
  simp [rowSigns, List.intercalate_cons_cons]

/-- An entry begins as a row does. -/
theorem exists_entrySigns_eq (d : Dialect) (r : CodeRange) :
    ∃ inner, entrySigns d r = d.rowMark ++ inner :=
  ⟨_, rfl⟩

/-- A row begins with its mark and ends with a bracket. -/
theorem exists_rowSigns_eq (d : Dialect) (r : CodeRange) (entries : List CodeRange) :
    ∃ middle, rowSigns d (r :: entries) = d.rowMark ++ middle ++ [d.rightSign] := by
  rcases exists_entrySigns_eq d r with ⟨inner, hinner⟩
  induction entries generalizing r inner with
  | nil => exact ⟨inner, by simp [rowSigns, hinner]⟩
  | cons next entries ih =>
    rcases exists_entrySigns_eq d next with ⟨_, hnext⟩
    rcases ih next _ hnext with ⟨middle, hmiddle⟩
    refine ⟨inner ++ d.rightSign :: ',' :: ' ' :: d.rowMark ++ middle, ?_⟩
    rw [rowSigns_cons_cons, hmiddle, hinner]
    simp

theorem newline_not_mem_rowSigns : Text.newline ∉ rowSigns d entries := by
  have hright : Text.newline ≠ d.rightSign := by cases d <;> decide
  have hcomma : (Text.newline : Char) ∉ [',', ' '] := by decide
  induction entries with
  | nil => exact List.not_mem_nil
  | cons r entries ih =>
    cases entries with
    | nil => simp [rowSigns, newline_not_mem_entrySigns, hright]
    | cons next entries =>
      rw [rowSigns_cons_cons, List.mem_append, List.mem_cons, List.mem_append]
      intro hmem
      rcases hmem with hmem | hmem | hmem | hmem
      · exact newline_not_mem_entrySigns hmem
      · exact hright hmem
      · exact hcomma hmem
      · exact ih hmem

/-! ## Cutting into rows -/

/-- The rows hold all entries in order. -/
theorem flatten_inRows (ranges : List CodeRange) : (inRows ranges).flatten = ranges := by
  fun_induction inRows ranges with
  | case1 a b c rest ih => simp [ih]
  | case2 => rfl
  | case3 row => simp

theorem inRows_ne_nil {ranges : List CodeRange} (h : ranges ≠ []) : inRows ranges ≠ [] := by
  intro hnil
  have hflatten := flatten_inRows ranges
  rw [hnil] at hflatten
  exact h hflatten.symm

theorem ne_nil_of_mem_inRows {ranges : List CodeRange} (h : entries ∈ inRows ranges) :
    entries ≠ [] := by
  fun_induction inRows ranges with
  | case1 a b c rest ih =>
    rcases List.mem_cons.1 h with rfl | hmem
    · exact List.cons_ne_nil _ _
    · exact ih hmem
  | case2 => cases h
  | case3 row _ hne =>
    rw [List.mem_singleton.1 h]
    rintro rfl
    exact hne rfl

end Listing

end CellWidth
