import Mathlib
import CellWidth.Proofs.Table.Uniqueness

/-!
# Tables of ranges

`Table.ofRanges?` makes a table of any ranges, if there is one.

* `ofRanges?_eq_ok_iff`, `ofRanges?_eq_error_iff` : what it gives, and when it refuses.
* `ofRanges?_congr` : ranges that cover the same code values make the same table.
* `ofRanges?_covers` : the table is in order, with a gap between any two of its entries, and covers
  what the ranges do.
-/

namespace CellWidth.Table

variable {width : Width} {ranges ranges' table : List CodeRange} {fault : Fault}

/-- A table is refused for want of ranges and for nothing else. -/
theorem ofRanges?_eq_error_iff :
    ofRanges? width ranges = .error fault ↔ ranges = [] ∧ fault = .emptyTable width := by
  unfold ofRanges?
  split
  · next h => simp [h, eq_comm]
  · next h => simp [h]

theorem ofRanges?_eq_ok_iff :
    ofRanges? width ranges = .ok table ↔ ranges ≠ [] ∧ coalesce ranges = table := by
  unfold ofRanges?
  split
  · next h => simp [h]
  · next h => simp [h]

/-- What a table is made to depends on the coverage alone. -/
theorem ofRanges?_congr (h : ∀ c, Covers ranges c ↔ Covers ranges' c) :
    ofRanges? width ranges = ofRanges? width ranges' := by
  have hempty : ranges = [] ↔ ranges' = [] := by
    rw [← not_iff_not]
    exact exists_covers_iff.symm.trans ((exists_congr h).trans exists_covers_iff)
  simp only [ofRanges?, hempty, coalesce_eq_iff.2 h]

/-- **What a table is.** Without ranges there is none. Any others make one: it is not empty, each
entry stops at least one code value before any later one starts, and it covers the code values that
the ranges cover. -/
theorem ofRanges?_covers (width : Width) (ranges : List CodeRange) :
    (∀ fault, ofRanges? width ranges = .error fault ↔
      ranges = [] ∧ fault = .emptyTable width) ∧
    (ranges ≠ [] → ∃ table, ofRanges? width ranges = .ok table ∧ table ≠ [] ∧
      (∀ r ∈ table, r.start ≤ r.stop) ∧
      (∀ (i j : Nat) (_ : i < j) (_ : j < table.length), table[i].stop + 1 < table[j].start) ∧
      ∀ c, Covers table c ↔ Covers ranges c) := by
  refine ⟨fun fault => ofRanges?_eq_error_iff, fun hne => ?_⟩
  refine ⟨coalesce ranges, ofRanges?_eq_ok_iff.2 ⟨hne, rfl⟩, coalesce_ne_nil_iff.2 hne, ?_, ?_,
    covers_coalesce ranges⟩
  · intro r _
    exact r.start_le_stop
  · intro i j hij hj
    exact List.pairwise_iff_getElem.1 (canonical_coalesce ranges) i j _ hj hij

/-- Ranges in no order, one of which holds another; some abut, up to the last code value. -/
theorem ofRanges?_covers_of_ranges :
    ofRanges? .zero [⟨0xFFFFFFFF, 0xFFFFFFFF, by decide, by decide⟩,
        ⟨0x10, 0x40, by decide, by decide⟩, ⟨0x20, 0x30, by decide, by decide⟩,
        ⟨0xFFFFFFFE, 0xFFFFFFFE, by decide, by decide⟩, ⟨0x41, 0x41, by decide, by decide⟩] =
      .ok [⟨0x10, 0x41, by decide, by decide⟩, ⟨0xFFFFFFFE, 0xFFFFFFFF, by decide, by decide⟩] ∧
    ∀ c, Covers [⟨0x10, 0x41, by decide, by decide⟩,
        ⟨0xFFFFFFFE, 0xFFFFFFFF, by decide, by decide⟩] c ↔
      Covers [⟨0xFFFFFFFF, 0xFFFFFFFF, by decide, by decide⟩, ⟨0x10, 0x40, by decide, by decide⟩,
        ⟨0x20, 0x30, by decide, by decide⟩, ⟨0xFFFFFFFE, 0xFFFFFFFE, by decide, by decide⟩,
        ⟨0x41, 0x41, by decide, by decide⟩] c := by
  have hmade : ofRanges? .zero [⟨0xFFFFFFFF, 0xFFFFFFFF, by decide, by decide⟩,
        ⟨0x10, 0x40, by decide, by decide⟩, ⟨0x20, 0x30, by decide, by decide⟩,
        ⟨0xFFFFFFFE, 0xFFFFFFFE, by decide, by decide⟩, ⟨0x41, 0x41, by decide, by decide⟩] =
      .ok [⟨0x10, 0x41, by decide, by decide⟩,
        ⟨0xFFFFFFFE, 0xFFFFFFFF, by decide, by decide⟩] := by cbv
  rcases (ofRanges?_covers .zero _).2 (List.cons_ne_nil _ _) with ⟨table, htable, -, -, -, hcovers⟩
  rw [hmade] at htable
  cases htable
  exact ⟨hmade, hcovers⟩

end CellWidth.Table
