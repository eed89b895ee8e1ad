import Mathlib
import CellWidth.Proofs.Table.Checking
import CellWidth.Proofs.Table.Merging

/-!
# No table is shorter

Ranges that cover the same code values may overlap, abut or repeat each other, and may have no range
in common. The table is the shortest of all such lists.

* `Canonical.exists_mem_of_covered` : what is covered without a gap lies within one entry.
* `Canonical.length_le_of_covers` : so another list with the same coverage has a range for each
  entry of the canonical one.
* `Table.ofRanges?_unique_minimal` : one table for all of them, and none of them is shorter.
-/

namespace CellWidth

variable {xs ys : List CodeRange} {r : CodeRange}

/-- A range that is covered lies within one entry of a canonical list. -/
theorem Canonical.exists_mem_of_covered (h : Canonical xs) (hcovered : ∀ c ∈ r, Covers xs c) :
    ∃ entry ∈ xs, ∀ c ∈ r, c ∈ entry := by
  have hbounds := r.start_le_stop
  obtain ⟨entry, hentry, hlow, hhigh⟩ := hcovered r.start ⟨Nat.le_refl _, hbounds⟩
  have hstop : r.stop ≤ entry.stop := by
    by_contra hshort
    -- an entry that stops early leaves a gap within the range
    have hinside : entry.stop + 1 ∈ r := ⟨by omega, by omega⟩
    exact (h.isRun hentry).ends (hcovered _ hinside)
  refine ⟨entry, hentry, fun c hc => ?_⟩
  obtain ⟨hstart, hend⟩ := hc
  exact ⟨by omega, by omega⟩

/-- And within that one only. -/
theorem Canonical.existsUnique_of_covered (h : Canonical xs) (hcovered : ∀ c ∈ r, Covers xs c) :
    ∃! entry, entry ∈ xs ∧ ∀ c ∈ r, c ∈ entry := by
  obtain ⟨entry, hentry, hwithin⟩ := h.exists_mem_of_covered hcovered
  have hstart : r.start ∈ r := ⟨Nat.le_refl _, r.start_le_stop⟩
  refine ⟨entry, ⟨hentry, hwithin⟩, fun other hother => ?_⟩
  exact h.eq_of_mem_of_mem hother.1 hentry (hother.2 _ hstart) (hwithin _ hstart)

/-- No list that covers what a canonical one covers is shorter. -/
theorem Canonical.length_le_of_covers (h : Canonical xs) (hcovers : ∀ c, Covers ys c ↔ Covers xs c) :
    xs.length ≤ ys.length := by
  -- each entry is found from the start of a range that lies within it
  have hfound : xs.map some ⊆ ys.map fun r => lastStarting? xs r.start := by
    intro found hmem
    obtain ⟨entry, hentry, rfl⟩ := List.mem_map.1 hmem
    have hstart : entry.start ∈ entry := ⟨Nat.le_refl _, entry.start_le_stop⟩
    obtain ⟨r, hr, hin⟩ := (hcovers entry.start).2 ⟨entry, hentry, hstart⟩
    have hcovered : ∀ c ∈ r, Covers xs c := fun c hc => (hcovers c).1 ⟨r, hr, hc⟩
    obtain ⟨other, hother, hwithin⟩ := h.exists_mem_of_covered hcovered
    have hsame : other = entry := h.eq_of_mem_of_mem hother hentry (hwithin _ hin) hstart
    have hbegin : r.start ∈ entry := hsame ▸ hwithin _ ⟨Nat.le_refl _, r.start_le_stop⟩
    exact List.mem_map.2 ⟨r, hr, h.lastStarting?_eq_some hentry hbegin⟩
  have hnodup : (xs.map some).Nodup := h.nodup.map (Option.some_injective _)
  simpa using (List.subperm_of_subset hnodup hfound).length_le

namespace Table

/-- **One table, and none is shorter.** Ranges that cover the same code values make the same table,
whichever they are, and the table covers these code values and no others. Every list that covers
what the table covers has at least as many ranges, and each of them lies within a single entry. -/
theorem ofRanges?_unique_minimal (width : Width) :
    (∀ xs ys : List CodeRange, xs ≠ [] → ys ≠ [] → (∀ c, Covers xs c ↔ Covers ys c) →
      ∃ table, ofRanges? width xs = .ok table ∧ ofRanges? width ys = .ok table) ∧
    ∀ xs : List CodeRange, xs ≠ [] → ∃ table, ofRanges? width xs = .ok table ∧
      (∀ c, Covers table c ↔ Covers xs c) ∧
      ∀ ys : List CodeRange, (∀ c, Covers ys c ↔ Covers xs c) →
        table.length ≤ ys.length ∧ ∀ r ∈ ys, ∃! entry, entry ∈ table ∧ ∀ c ∈ r, c ∈ entry := by
  refine ⟨fun xs ys hxs _ hsame => ?_, fun xs hxs => ?_⟩
  · have hmade : ofRanges? width xs = .ok (coalesce xs) := ofRanges?_eq_ok_iff.2 ⟨hxs, rfl⟩
    exact ⟨coalesce xs, hmade, ofRanges?_congr hsame ▸ hmade⟩
  · refine ⟨coalesce xs, ofRanges?_eq_ok_iff.2 ⟨hxs, rfl⟩, covers_coalesce xs, fun ys hsame => ?_⟩
    have hcanonical : Canonical (coalesce xs) := canonical_coalesce xs
    have hcovers (c : Nat) : Covers ys c ↔ Covers (coalesce xs) c :=
      (hsame c).trans (covers_coalesce xs c).symm
    refine ⟨hcanonical.length_le_of_covers hcovers, fun r hr => ?_⟩
    exact hcanonical.existsUnique_of_covered fun c hc => (hcovers c).1 ⟨r, hr, hc⟩

/-- Two ways to cut up the last code values, with no range in common: the table has one entry, and
the ranges of both lie within it. -/
theorem ofRanges?_unique_minimal_of_ranges :
    ofRanges? .zero [⟨0xFFFFFFFE, 0xFFFFFFFF, by decide, by decide⟩,
        ⟨0xFFFFFFF0, 0xFFFFFFFD, by decide, by decide⟩] =
      .ok [⟨0xFFFFFFF0, 0xFFFFFFFF, by decide, by decide⟩] ∧
    ofRanges? .zero [⟨0xFFFFFFF0, 0xFFFFFFF5, by decide, by decide⟩,
        ⟨0xFFFFFFF4, 0xFFFFFFFF, by decide, by decide⟩] =
      .ok [⟨0xFFFFFFF0, 0xFFFFFFFF, by decide, by decide⟩] ∧
    ∀ r ∈ ([⟨0xFFFFFFF0, 0xFFFFFFF5, by decide, by decide⟩,
        ⟨0xFFFFFFF4, 0xFFFFFFFF, by decide, by decide⟩] : List CodeRange),
      ∃! entry : CodeRange, entry ∈ [⟨0xFFFFFFF0, 0xFFFFFFFF, by decide, by decide⟩] ∧
        ∀ c ∈ r, c ∈ entry := by
  have hsame (c : Nat) : Covers [⟨0xFFFFFFF0, 0xFFFFFFF5, by decide, by decide⟩,
        ⟨0xFFFFFFF4, 0xFFFFFFFF, by decide, by decide⟩] c ↔
      Covers [⟨0xFFFFFFFE, 0xFFFFFFFF, by decide, by decide⟩,
        ⟨0xFFFFFFF0, 0xFFFFFFFD, by decide, by decide⟩] c := by
    simp only [Covers, CodeRange.mem_iff, List.mem_cons, List.not_mem_nil, or_false,
      exists_eq_or_imp, exists_eq_left]
    omega
  have hmade : ofRanges? .zero [⟨0xFFFFFFFE, 0xFFFFFFFF, by decide, by decide⟩,
        ⟨0xFFFFFFF0, 0xFFFFFFFD, by decide, by decide⟩] =
      .ok [⟨0xFFFFFFF0, 0xFFFFFFFF, by decide, by decide⟩] := by cbv
  rcases ofRanges?_unique_minimal .zero with ⟨hunique, hminimal⟩
  rcases hunique _ _ (List.cons_ne_nil _ _) (List.cons_ne_nil _ _) hsame with ⟨table, hother, hone⟩
  rcases hminimal _ (List.cons_ne_nil _ _) with ⟨shortest, hshortest, -, hleast⟩
  have hwithin := (hleast _ hsame).2
  rw [hmade] at hone hshortest
  cases hone
  cases hshortest
  exact ⟨hmade, hother, hwithin⟩

end Table

end CellWidth
