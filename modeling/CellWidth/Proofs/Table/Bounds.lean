import Mathlib
import CellWidth.Proofs.Table.Counting
import CellWidth.Proofs.Word

/-!
# How large counts can be

The gaps of a canonical list take up code values of their own. Its entries, what they hold and the
gaps between them fit below the last code value, so that the counts of a table stay within the
words of a machine.

* `length_le_totalSize` : each entry holds a code value.
* `Canonical.totalSize_add_length_le` : there is room for the entries and the gaps between them.
* `Word.size?_eq`, `Word.total?_eq`, `Word.bytes?_eq` : the counts of a list, computed in words.
-/

namespace CellWidth

open CodeRange (totalSize)

variable {xs rest : List CodeRange} {r : CodeRange} {last : Nat}

/-! ## Room for the entries -/

/-- A range stops where its size says. -/
theorem CodeRange.start_add_size (r : CodeRange) : r.start + r.size = r.stop + 1 := by
  have hbounds := r.start_le_stop
  rw [CodeRange.size]
  omega

/-- Each entry holds a code value. -/
theorem length_le_totalSize (xs : List CodeRange) : xs.length ≤ totalSize xs := by
  induction xs with
  | nil => exact Nat.le_refl 0
  | cons r rest ih =>
    have hsize : 1 ≤ r.size := Nat.le_add_left 1 _
    rw [List.length_cons, totalSize_cons]
    omega

/-- From the start of the first entry on there is room for the entries and the gaps between them. -/
theorem Canonical.start_add_totalSize_le (h : Canonical (r :: rest))
    (hlast : ∀ s ∈ r :: rest, s.stop ≤ last) :
    r.start + totalSize (r :: rest) + rest.length ≤ last + 1 := by
  -- each entry takes its size, and one code value more if there is an entry behind it
  induction rest generalizing r with
  | nil =>
    have hstop : r.stop ≤ last := hlast r List.mem_cons_self
    have hend := r.start_add_size
    have hnone : totalSize [] = 0 := rfl
    rw [totalSize_cons, List.length_nil]
    omega
  | cons next rest ih =>
    obtain ⟨hbefore, hrest⟩ := canonical_cons_cons_iff.1 h
    have hgap : r.stop + 1 < next.start := hbefore
    have hroom := ih hrest fun s hs => hlast s (List.mem_cons_of_mem r hs)
    have hend := r.start_add_size
    rw [totalSize_cons, List.length_cons]
    omega

/-- Entries that stop at the last code value or before it, and one code value between any two. -/
theorem Canonical.totalSize_add_length_le (h : Canonical xs) (hlast : ∀ r ∈ xs, r.stop ≤ last) :
    totalSize xs + xs.length ≤ last + 2 := by
  cases xs with
  | nil => exact Nat.zero_le _
  | cons r rest =>
    have hroom := h.start_add_totalSize_le hlast
    rw [List.length_cons]
    omega

/-- As many code values may be covered as there are, less the gaps. -/
theorem Canonical.totalSize_add_length_le_limit (h : Canonical xs) :
    totalSize xs + xs.length ≤ codeLimit + 1 := by
  have hlast : ∀ r ∈ xs, r.stop ≤ codeLimit - 1 := fun r _ => Nat.le_pred_of_lt r.stop_lt_limit
  exact h.totalSize_add_length_le hlast

/-- Coalescing reaches no further than the ranges did. -/
theorem stop_le_of_mem_coalesce (hlast : ∀ r ∈ xs, r.stop ≤ last) (hr : r ∈ coalesce xs) :
    r.stop ≤ last := by
  have hcovers : Covers (coalesce xs) r.stop := ⟨r, hr, r.start_le_stop, Nat.le_refl _⟩
  obtain ⟨s, hs, -, hstop⟩ := (covers_coalesce xs r.stop).1 hcovers
  exact hstop.trans (hlast s hs)

/-! ## Counting in words -/

namespace Word

/-- The size of a range: the difference of its bounds, and one. -/
def size? (r : CodeRange) : Option Nat :=
  (sub? r.stop r.start).bind fun between => add? 64 between 1

/-- The sizes of some ranges, added up one after another. -/
def total? (ranges : List CodeRange) : Option Nat :=
  ranges.foldlM (fun total r => (size? r).bind fun size => add? 64 total size) 0

/-- The bytes of a table: two numbers of four bytes for each entry. -/
def bytes? (entries : Nat) : Option Nat :=
  (mul? 64 entries 2).bind fun numbers => mul? 64 numbers 4

theorem size?_eq (r : CodeRange) : size? r = some r.size := by
  have hlimit : r.stop < 2 ^ 32 := r.stop_lt_limit
  rw [size?, sub?, if_pos r.start_le_stop, Option.bind_some, add?, if_pos (by omega)]
  rfl

/-- As long as the sum fits into 64 bits, every sum on the way to it does. -/
theorem foldlM_add?_eq {total : Nat} (h : total + totalSize xs < 2 ^ 64) :
    xs.foldlM (fun total r => (size? r).bind fun size => add? 64 total size) total =
      some (total + totalSize xs) := by
  induction xs generalizing total with
  | nil => rfl
  | cons r rest ih =>
    rw [totalSize_cons, ← Nat.add_assoc] at h ⊢
    rw [List.foldlM_cons, size?_eq, Option.bind_some, add?, if_pos (by omega)]
    exact ih h

theorem total?_eq (h : totalSize xs < 2 ^ 64) : total? xs = some (totalSize xs) := by
  rw [total?, foldlM_add?_eq (by omega), Nat.zero_add]

theorem bytes?_eq {entries : Nat} (h : 8 * entries < 2 ^ 64) :
    bytes? entries = some (8 * entries) := by
  have hbytes : entries * 2 * 4 = 8 * entries := by omega
  rw [bytes?, mul?, if_pos (by omega), Option.bind_some, mul?, if_pos (by omega), hbytes]

end Word

/-! ## Counts of tables -/

/-- The counts of a table are within their bounds, and no step towards them leaves its word. -/
structure Summary.Fits (width : Width) (ranges : List CodeRange) : Prop where
  one_le_entries : 1 ≤ (ofRanges width ranges).entries
  entries_le : (ofRanges width ranges).entries ≤ (ofRanges width ranges).codepoints
  codepoints_le :
    (ofRanges width ranges).codepoints + (ofRanges width ranges).entries - 1 ≤ 2 ^ 32
  size? : ∀ r ∈ ranges, Word.size? r = some r.size
  total? : Word.total? ranges = some (ofRanges width ranges).codepoints
  bytes? : Word.bytes? (ofRanges width ranges).entries = some (ofRanges width ranges).bytes

/-- The counts of what the check accepts. -/
theorem Summary.fits_of_check {width : Width} (h : Table.check width xs = .ok ()) :
    Summary.Fits width xs := by
  obtain ⟨hne, hcanonical⟩ := Table.check_eq_ok_iff.1 h
  have hpos : 1 ≤ xs.length := List.length_pos_iff.2 hne
  have hlength := length_le_totalSize xs
  have hroom : totalSize xs + xs.length ≤ 2 ^ 32 + 1 := hcanonical.totalSize_add_length_le_limit
  have hcodepoints : totalSize xs + xs.length - 1 ≤ 2 ^ 32 := by omega
  have hbytes : 8 * xs.length < 2 ^ 64 := by omega
  exact ⟨hpos, hlength, hcodepoints, fun r _ => Word.size?_eq r, Word.total?_eq (by omega),
    Word.bytes?_eq hbytes⟩

end CellWidth
