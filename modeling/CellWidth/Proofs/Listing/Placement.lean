import Mathlib
import CellWidth.Listing
import CellWidth.Proofs.Listing.Signs

/-!
# Where each entry stands

The rows of a table are made three entries at a time. Here is the same text entry by entry: what
stands around an entry is told by its place and the number of entries.

* `numeral code` : a bound, by the digits of the library. `entry_eq` : an entry has two of them.
* `placed left right count place r` : an entry with the signs in front of it and behind it.
* `rows_induction` : along the rows, of which only the last one may have fewer than three entries.
* `rows_cons_cons_cons`, `placed_add_three` : a full row more, on either side.
* `rows_eq_placed` : the rows are the placed entries, and there is a comma between any two of them,
  none behind the last one, and a line for three of them.
-/

namespace CellWidth.Listing

open Text.Hex (IsDigit digits_lower padded)

variable {left right : String} {entries ranges : List CodeRange} {c : Char}

/-! ## Entries -/

/-- A number as it stands in a listing: in base sixteen, with zeros in front up to five digits. -/
def numeral (code : Nat) : String :=
  "0x" ++ .ofList ((Nat.toDigits 16 code).leftpad 5 '0')

theorem entry_eq (left right : String) (r : CodeRange) :
    entry left right r = left ++ numeral r.start ++ ", " ++ numeral r.stop ++ right := by
  simp only [entry, bound, numeral, padded, digits_lower]

/-! ## Places -/

/-- The entry at a place among others. The first one in a row stands behind the indent. All but the
last one are followed by a comma, and the last one in a row by the end of the line. -/
def placed (left right : String) (count place : Nat) (r : CodeRange) : String :=
  (if place % 3 = 0 then "    " else " ") ++
    (left ++ numeral r.start ++ ", " ++ numeral r.stop ++ right) ++
    (if place + 1 < count then "," else "") ++
    (if place % 3 = 2 ∨ place + 1 = count then "\n" else "")

theorem placed_eq (left right : String) (count place : Nat) (r : CodeRange) :
    placed left right count place r =
      (if place % 3 = 0 then "    " else " ") ++ entry left right r ++
        (if place + 1 < count then "," else "") ++
        (if place % 3 = 2 ∨ place + 1 = count then "\n" else "") := by
  rw [placed, entry_eq]

/-- A row in front moves an entry, and changes nothing else. -/
theorem placed_add_three (left right : String) (count place : Nat) (r : CodeRange) :
    placed left right (count + 3) (place + 3) r = placed left right count place r := by
  have hrow : (place + 3) % 3 = place % 3 := Nat.add_mod_right place 3
  have hcomma : place + 3 + 1 < count + 3 ↔ place + 1 < count := by omega
  have hlast : place + 3 + 1 = count + 3 ↔ place + 1 = count := by omega
  simp only [placed, hrow, hcomma, hlast]

/-! ## Rows -/

/-- Induction along the rows: no entries, a last row with one or two of them, or a full row in front
of others. -/
theorem rows_induction {motive : List CodeRange → Prop} (none : motive [])
    (one : ∀ only, motive [only]) (two : ∀ first second, motive [first, second])
    (full : ∀ first second third rest, motive rest → motive (first :: second :: third :: rest)) :
    ∀ ranges, motive ranges
  | [] => none
  | [only] => one only
  | [first, second] => two first second
  | first :: second :: third :: rest =>
    full first second third rest (rows_induction none one two full rest)

/-- A full row, and the rows behind it. -/
theorem rows_cons_cons_cons (left right : String) (first second third : CodeRange)
    (rest : List CodeRange) :
    rows left right (first :: second :: third :: rest) =
      row left right [first, second, third] ++ (if rest = [] then "" else ",") ++ "\n" ++
        rows left right rest := by
  cases rest with
  | nil => simp [rows, inRows]
  | cons next rest =>
    obtain ⟨nextRow, more, hrows⟩ :=
      List.exists_cons_of_ne_nil (inRows_ne_nil (List.cons_ne_nil next rest))
    simp [rows, inRows, hrows, String.append_assoc]

/-- The rows are the entries, each at its place. -/
theorem rows_eq_join (left right : String) (ranges : List CodeRange) :
    rows left right ranges =
      String.join (ranges.mapIdx (placed left right ranges.length)) := by
  -- the places in the other rows are counted anew
  induction ranges using rows_induction with
  | none => rfl
  | one only => simp [rows, inRows, row, placed_eq]
  | two first second => simp [rows, inRows, row, placed_eq, ← String.toList_inj]
  | full first second third rest ih =>
    have hcomma : 0 < rest.length ↔ rest ≠ [] := List.length_pos_iff
    have hshift : (rest.mapIdx fun place => placed left right (rest.length + 3) (place + 3)) =
        rest.mapIdx (placed left right rest.length) :=
      congrArg (rest.mapIdx ·) (funext₂ (placed_add_three left right rest.length))
    simp only [List.mapIdx_cons, List.length_cons, String.join_cons, Nat.add_assoc, Nat.reduceAdd,
      hshift, ← ih, rows_cons_cons_cons, ← String.toList_inj]
    simp [placed_eq, row, hcomma]

/-! ## Commas and lines -/

/-- How often a sign stands in an entry that is no blank and stands in no bound. -/
theorem count_entry (hdigit : ¬ IsDigit c) (hx : c ≠ 'x') (hblank : c ≠ ' ') (left right : String)
    (r : CodeRange) :
    (entry left right r).toList.count c =
      left.toList.count c + right.toList.count c + [','].count c := by
  have hbound (code : Nat) : (bound code).toList.count c = 0 := by
    rw [bound_toList]
    exact List.count_eq_zero.2 (not_mem_boundSigns hdigit hx)
  have hcomma : ", ".toList.count c = [','].count c := by
    simp [List.count_cons, hblank.symm]
  simp only [entry, String.toList_append, List.count_append, hbound, hcomma]
  omega

/-- How often such a sign stands in a row: in its entries and between them. -/
theorem count_row (hdigit : ¬ IsDigit c) (hx : c ≠ 'x') (hblank : c ≠ ' ') (left right : String)
    (r : CodeRange) (entries : List CodeRange) :
    (row left right (r :: entries)).toList.count c =
      (entries.length + 1) * (left.toList.count c + right.toList.count c + [','].count c) +
        entries.length * [','].count c := by
  have hcomma : ", ".toList.count c = [','].count c := by
    simp [List.count_cons, hblank.symm]
  have hindent : "    ".toList.count c = 0 := by
    simp [hblank.symm]
  rw [row, String.toList_append, List.count_append, hindent, Nat.zero_add]
  induction entries generalizing r with
  | nil => simp [count_entry hdigit hx hblank]
  | cons next entries ih =>
    rw [List.map_cons, List.map_cons, String.intercalate_cons_cons, ← List.map_cons,
      String.toList_append, String.toList_append, List.count_append, List.count_append, ih next,
      count_entry hdigit hx hblank, hcomma, List.length_cons]
    ring

/-- How often such a sign stands in the rows: in the entries, between them, and at the ends of the
lines. -/
theorem count_rows (hdigit : ¬ IsDigit c) (hx : c ≠ 'x') (hblank : c ≠ ' ') (left right : String)
    (ranges : List CodeRange) :
    (rows left right ranges).toList.count c =
      ranges.length * (left.toList.count c + right.toList.count c + [','].count c) +
        (ranges.length - 1) * [','].count c + (ranges.length + 2) / 3 * ['\n'].count c := by
  induction ranges using rows_induction with
  | none => simp [rows]
  | one only =>
    have hrow : rows left right [only] = row left right [only] ++ "\n" := by simp [rows, inRows]
    simp [hrow, count_row hdigit hx hblank]
  | two first second =>
    have hrow : rows left right [first, second] = row left right [first, second] ++ "\n" := by
      simp [rows, inRows]
    simp [hrow, count_row hdigit hx hblank]
  | full first second third rest ih =>
    rw [rows_cons_cons_cons, String.toList_append, String.toList_append, String.toList_append,
      List.count_append, List.count_append, List.count_append, ih, count_row hdigit hx hblank]
    cases rest with
    | nil => simp
    | cons next rest =>
      have hlines : (rest.length + 1 + 1 + 1 + 1 + 2) / 3 = (rest.length + 1 + 2) / 3 + 1 := by
        omega
      simp only [List.length_cons, List.length_nil, reduceCtorEq, if_false, hlines,
        Nat.add_sub_cancel]
      simp
      ring

/-- **Entry by entry.** The rows are the entries, each at its place: behind the indent or a blank,
with a comma unless it is the last one, and with the end of the line if it is the third in its row
or the last one. Besides what the brackets bring, there is one comma within each entry and one between
any two neighbours, and a line for every three entries, the last of them perhaps with fewer. Without
entries there is no text. -/
theorem rows_eq_placed (left right : String) (ranges : List CodeRange) :
    rows left right ranges =
      String.join (ranges.mapIdx (placed left right ranges.length)) ∧
    (rows left right ranges).toList.count ',' =
      ranges.length + (ranges.length - 1) +
        ranges.length * (left.toList.count ',' + right.toList.count ',') ∧
    (rows left right ranges).toList.count '\n' =
      (ranges.length + 2) / 3 +
        ranges.length * (left.toList.count '\n' + right.toList.count '\n') ∧
    rows left right [] = "" := by
  have hcomma := count_rows (c := ',') (by decide) (by decide) (by decide) left right ranges
  have hnewline := count_rows (c := '\n') (by decide) (by decide) (by decide) left right ranges
  refine ⟨rows_eq_join left right ranges, ?_, ?_, rfl⟩
  · rw [hcomma, List.count_singleton_self, List.count_singleton]
    simp only [Char.reduceBEq, Bool.false_eq_true, if_false, Nat.mul_zero, Nat.mul_one]
    ring
  · rw [hnewline, List.count_singleton_self, List.count_singleton]
    simp only [Char.reduceBEq, Bool.false_eq_true, if_false, Nat.mul_zero, Nat.mul_one,
      Nat.add_zero]
    ring

/-- A full row and one that is not; bounds of five, six and eight digits. -/
example : rows "(" ")" [⟨0, 0, by decide, by decide⟩, ⟨2, 3, by decide, by decide⟩,
    ⟨5, 5, by decide, by decide⟩, ⟨0x10FFFE, 0xFFFFFFFF, by decide, by decide⟩] =
      "    (0x00000, 0x00000), (0x00002, 0x00003), (0x00005, 0x00005),\n" ++
        "    (0x10fffe, 0xffffffff)\n" := by cbv

end CellWidth.Listing
