import Mathlib.Data.List.Basic
import CellWidth.Table.Lemmas

/-!
# A canonical list is known by what it covers

* `mem_iff_isRun` : the entries of a canonical list are the longest runs of what it covers.
* `eq_of_canonical` : so two canonical lists that cover the same code values are equal.
* `coalesce_eq_iff` : hence coalescing depends on the coverage alone.
* `coalesce_append` : so pieces of a list may be coalesced before the whole.
* `coalesce_eq_self_iff` : and the canonical lists are those that it leaves.
-/

namespace CellWidth

variable {xs ys : List CodeRange} {r s : CodeRange}

/-- A list covers something unless it is empty. -/
theorem exists_covers_iff : (∃ c, Covers xs c) ↔ xs ≠ [] := by
  constructor
  · intro hcovers
    rcases hcovers with ⟨c, r, hr, -⟩
    exact List.ne_nil_of_mem hr
  · intro hne
    rcases List.exists_mem_of_ne_nil xs hne with ⟨r, hr⟩
    exact ⟨r.start, r, hr, Nat.le_refl _, r.start_le_stop⟩

theorem covers_append {c : Nat} : Covers (xs ++ ys) c ↔ Covers xs c ∨ Covers ys c := by
  simp only [Covers, List.mem_append, or_and_right, exists_or]

/-- All code values of the range are covered, and none right before or behind it is. -/
structure IsRun (ranges : List CodeRange) (r : CodeRange) : Prop where
  covered : ∀ c ∈ r, Covers ranges c
  begins : ∀ c, c + 1 = r.start → ¬ Covers ranges c
  ends : ¬ Covers ranges (r.stop + 1)

/-- Of two entries of a canonical list that are not the same, one lies before the other. -/
theorem Canonical.before_or_before (h : Canonical xs) (hr : r ∈ xs) (hs : s ∈ xs) (hne : r ≠ s) :
    Before r s ∨ Before s r := by
  rcases List.getElem_of_mem hr with ⟨i, hi, rfl⟩
  rcases List.getElem_of_mem hs with ⟨j, hj, rfl⟩
  have hpairs := List.pairwise_iff_getElem.1 h
  rcases Nat.lt_trichotomy i j with hlt | rfl | hgt
  · exact .inl (hpairs i j hi hj hlt)
  · exact absurd rfl hne
  · exact .inr (hpairs j i hj hi hgt)

/-- An entry of a canonical list is a longest run. -/
theorem Canonical.isRun (h : Canonical xs) (hr : r ∈ xs) : IsRun xs r := by
  have hbounds := r.start_le_stop
  -- what covers a neighbour of the range is another entry, and there is a gap between the two
  refine ⟨fun c hc => ⟨r, hr, hc⟩, ?_, ?_⟩
  · intro c hc hcovers
    rcases hcovers with ⟨s, hs, hlow, hhigh⟩
    have hne : r ≠ s := by
      rintro rfl
      omega
    rcases h.before_or_before hr hs hne with hgap | hgap <;> unfold Before at hgap <;> omega
  · intro hcovers
    rcases hcovers with ⟨s, hs, hlow, hhigh⟩
    have hne : r ≠ s := by
      rintro rfl
      omega
    rcases h.before_or_before hr hs hne with hgap | hgap <;> unfold Before at hgap <;> omega

/-- A canonical list has every longest run as an entry. -/
theorem Canonical.mem_of_isRun (h : Canonical xs) (hr : IsRun xs r) : r ∈ xs := by
  rcases hr.covered r.start ⟨Nat.le_refl _, r.start_le_stop⟩ with ⟨s, hs, hlow, hhigh⟩
  have hrun := h.isRun hs
  have hstart : s.start = r.start := by
    by_contra hne
    -- then the code value right before the run lies in the entry
    exact hr.begins (r.start - 1) (by omega) ⟨s, hs, by omega, by omega⟩
  have hstop : s.stop = r.stop := by
    -- an entry that stops early leaves a gap in the run, one that stops late goes on behind it
    rcases Nat.lt_trichotomy s.stop r.stop with hlt | heq | hgt
    · exact absurd (hr.covered (s.stop + 1) ⟨by omega, by omega⟩) hrun.ends
    · exact heq
    · have hbounds := r.start_le_stop
      exact absurd ⟨s, hs, by omega, by omega⟩ hr.ends
  rw [← CodeRange.eq_of_bounds hstart hstop]
  exact hs

/-- The entries of a canonical list are the longest runs of what it covers. -/
theorem Canonical.mem_iff_isRun (h : Canonical xs) : r ∈ xs ↔ IsRun xs r :=
  ⟨h.isRun, h.mem_of_isRun⟩

/-- Which runs there are depends on the coverage alone. -/
theorem isRun_congr (h : ∀ c, Covers xs c ↔ Covers ys c) : IsRun xs r ↔ IsRun ys r := by
  constructor
  · intro hr
    exact ⟨fun c hc => (h c).1 (hr.covered c hc), fun c hc hys => hr.begins c hc ((h c).2 hys),
      fun hys => hr.ends ((h _).2 hys)⟩
  · intro hr
    exact ⟨fun c hc => (h c).2 (hr.covered c hc), fun c hc hxs => hr.begins c hc ((h c).1 hxs),
      fun hxs => hr.ends ((h _).1 hxs)⟩

theorem Before.asymm (h : Before r s) : ¬ Before s r := by
  have hr := r.start_le_stop
  have hs := s.start_le_stop
  unfold Before at *
  omega

theorem Canonical.nodup (h : Canonical xs) : xs.Nodup := by
  refine List.Pairwise.imp ?_ h
  rintro r s hbefore rfl
  exact hbefore.asymm hbefore

/-- Two canonical lists that cover the same code values are equal. -/
theorem eq_of_canonical (hxs : Canonical xs) (hys : Canonical ys)
    (h : ∀ c, Covers xs c ↔ Covers ys c) : xs = ys := by
  have hmem (r : CodeRange) : r ∈ xs ↔ r ∈ ys := by
    rw [hxs.mem_iff_isRun, hys.mem_iff_isRun, isRun_congr h]
  -- the same entries, and both lists are in order
  have hperm : xs.Perm ys := (List.perm_ext_iff_of_nodup hxs.nodup hys.nodup).2 hmem
  exact List.Perm.eq_of_pairwise (fun _ _ _ _ hab hba => absurd hba hab.asymm) hxs hys hperm

/-- Coalescing depends on the coverage alone, and tells coverages apart. -/
theorem coalesce_eq_iff : coalesce xs = coalesce ys ↔ ∀ c, Covers xs c ↔ Covers ys c := by
  constructor
  · intro h c
    rw [← covers_coalesce xs, h, covers_coalesce]
  · intro h
    refine eq_of_canonical (canonical_coalesce xs) (canonical_coalesce ys) fun c => ?_
    rw [covers_coalesce, covers_coalesce, h]

/-- Nothing is lost by coalescing two pieces first; ranges that meet at the seam are joined. -/
theorem coalesce_append (xs ys : List CodeRange) :
    coalesce (coalesce xs ++ coalesce ys) = coalesce (xs ++ ys) := by
  refine coalesce_eq_iff.2 fun c => ?_
  rw [covers_append, covers_append, covers_coalesce, covers_coalesce]

/-- Coalescing leaves the canonical lists and no others. -/
theorem coalesce_eq_self_iff : coalesce xs = xs ↔ Canonical xs := by
  constructor
  · intro h
    exact h ▸ canonical_coalesce xs
  · intro h
    exact eq_of_canonical (canonical_coalesce xs) h (covers_coalesce xs)

/-- Ranges coalesce to something unless there are none. -/
theorem coalesce_ne_nil_iff : coalesce xs ≠ [] ↔ xs ≠ [] := by
  rw [← exists_covers_iff, ← exists_covers_iff]
  simp only [covers_coalesce]

end CellWidth
