import CellWidth.Table

/-!
# Coalescing gives tables, and the check accepts tables

* `covers_coalesce` : coalescing neither loses nor invents a code value.
* `canonical_coalesce` : its result is canonical, whatever the ranges were.
* `check_eq_ok_iff` : the check accepts the non-empty canonical lists and no others.
-/

namespace CellWidth

open CodeRange

/-! ## Order by start -/

theorem mem_byStart {ranges : List CodeRange} {r : CodeRange} : r ∈ byStart ranges ↔ r ∈ ranges :=
  (List.mergeSort_perm ranges _).mem_iff

theorem byStart_pairwise (ranges : List CodeRange) :
    (byStart ranges).Pairwise fun a b => a.start ≤ b.start := by
  have hsorted : (byStart ranges).Pairwise fun a b => decide (a.start ≤ b.start) = true := by
    refine List.pairwise_mergeSort ?_ ?_ ranges
    · intro a b c hab hbc
      simp only [decide_eq_true_eq] at *
      omega
    · intro a b
      simp only [Bool.or_eq_true, decide_eq_true_eq]
      omega
  exact hsorted.imp fun h => of_decide_eq_true h

/-- A join with a range that starts no earlier keeps the start. -/
theorem start_of_join? {a b r : CodeRange} (hstart : a.start ≤ b.start)
    (h : a.join? b = some r) : r.start = a.start := by
  unfold CodeRange.join? at h
  split at h
  · cases h
    exact Nat.min_eq_left hstart
  · cases h

/-! ## The scan -/

/-- The scan starts where its current range does, and goes on from there. -/
theorem start_le_of_mem_absorb {current : CodeRange} {rest : List CodeRange}
    (hsorted : (current :: rest).Pairwise fun a b => a.start ≤ b.start) {r : CodeRange}
    (hr : r ∈ absorb current rest) : current.start ≤ r.start := by
  induction rest generalizing current with
  | nil =>
    rw [absorb, List.mem_singleton] at hr
    exact hr ▸ Nat.le_refl _
  | cons next rest ih =>
    obtain ⟨hfirst, hrest⟩ := List.pairwise_cons.1 hsorted
    have hnext : current.start ≤ next.start := hfirst next List.mem_cons_self
    unfold absorb at hr
    split at hr
    · next joined hjoin =>
      have hstart := start_of_join? hnext hjoin
      have hjoined : (joined :: rest).Pairwise fun a b => a.start ≤ b.start :=
        List.pairwise_cons.2 ⟨fun x hx => hstart ▸ hfirst x (List.mem_cons_of_mem _ hx),
          (List.pairwise_cons.1 hrest).2⟩
      exact hstart ▸ ih hjoined hr
    · rcases List.mem_cons.1 hr with rfl | hr
      · exact Nat.le_refl _
      · exact Nat.le_trans hnext (ih hrest hr)

/-- From ranges in order of their starts the scan makes a canonical list. -/
theorem canonical_absorb {current : CodeRange} {rest : List CodeRange}
    (hsorted : (current :: rest).Pairwise fun a b => a.start ≤ b.start) :
    Canonical (absorb current rest) := by
  induction rest generalizing current with
  | nil => exact List.pairwise_singleton _ _
  | cons next rest ih =>
    obtain ⟨hfirst, hrest⟩ := List.pairwise_cons.1 hsorted
    have hnext : current.start ≤ next.start := hfirst next List.mem_cons_self
    unfold absorb
    split
    · next joined hjoin =>
      have hstart := start_of_join? hnext hjoin
      exact ih (List.pairwise_cons.2 ⟨fun x hx => hstart ▸ hfirst x (List.mem_cons_of_mem _ hx),
        (List.pairwise_cons.1 hrest).2⟩)
    · next hjoin =>
      refine List.pairwise_cons.2 ⟨fun r hr => ?_, ih hrest⟩
      -- what follows starts no earlier than the range that could not be joined
      have hgap : Before current next := before_of_join?_eq_none hnext hjoin
      have hbehind : next.start ≤ r.start := start_le_of_mem_absorb hrest hr
      exact Nat.lt_of_lt_of_le hgap hbehind

/-! ## Coalescing -/

/-- Coalescing neither loses nor invents a code value. -/
theorem covers_coalesce (ranges : List CodeRange) (c : Nat) :
    Covers (coalesce ranges) c ↔ Covers ranges c := by
  have hsame : Covers (byStart ranges) c ↔ Covers ranges c :=
    ⟨fun ⟨r, hr, hc⟩ => ⟨r, mem_byStart.1 hr, hc⟩, fun ⟨r, hr, hc⟩ => ⟨r, mem_byStart.2 hr, hc⟩⟩
  rw [← hsame]
  unfold coalesce
  split
  · next h => rw [h]
  · next first rest h => rw [h, covers_absorb]

/-- The coalesced list is canonical, whatever the ranges were. -/
theorem canonical_coalesce (ranges : List CodeRange) : Canonical (coalesce ranges) := by
  have hsorted := byStart_pairwise ranges
  unfold coalesce
  split
  · exact List.Pairwise.nil
  · next first rest h => exact canonical_absorb (h ▸ hsorted)

/-! ## Checking -/

/-- Gaps add up: a range before a range before a third lies before the third. -/
theorem Before.trans {a b c : CodeRange} (hab : Before a b) (hbc : Before b c) : Before a c := by
  have hb := b.start_le_stop
  unfold Before at *
  omega

/-- One more entry in front is in order if it lies before the one that was first. -/
theorem canonical_cons_cons_iff {a b : CodeRange} {rest : List CodeRange} :
    Canonical (a :: b :: rest) ↔ Before a b ∧ Canonical (b :: rest) := by
  constructor
  · intro h
    obtain ⟨hfirst, hrest⟩ := List.pairwise_cons.1 h
    exact ⟨hfirst b List.mem_cons_self, hrest⟩
  · intro h
    obtain ⟨hab, hrest⟩ := h
    refine List.pairwise_cons.2 ⟨fun r hr => ?_, hrest⟩
    rcases List.mem_cons.1 hr with rfl | hr
    · exact hab
    · exact hab.trans ((List.pairwise_cons.1 hrest).1 r hr)

namespace Table

/-- The check stays within the code values, where nothing starts behind the last one. It sees the
gaps that there are. -/
theorem successor_lt_iff_before {a b : CodeRange} : successor a.stop < b.start ↔ Before a b := by
  have hb := b.start_le_stop
  have hlimit := b.stop_lt_limit
  unfold Before successor
  omega

theorem firstUnordered?_cons_cons (a b : CodeRange) (rest : List CodeRange) :
    firstUnordered? (a :: b :: rest) =
      if Before a b then (firstUnordered? (b :: rest)).map (· + 1) else some 1 := by
  simp only [firstUnordered?, ← Nat.not_lt, successor_lt_iff_before, ite_not]

/-- Neighbours in order are all in order. -/
theorem firstUnordered?_eq_none_iff {ranges : List CodeRange} :
    firstUnordered? ranges = none ↔ Canonical ranges := by
  induction ranges with
  | nil => exact ⟨fun _ => List.Pairwise.nil, fun _ => rfl⟩
  | cons a ranges ih =>
    cases ranges with
    | nil => exact ⟨fun _ => List.pairwise_singleton _ _, fun _ => rfl⟩
    | cons b rest =>
      rw [canonical_cons_cons_iff, ← ih, firstUnordered?_cons_cons]
      split
      · next hab => simp [hab]
      · next hab => simp [hab]

/-- The check accepts the non-empty canonical lists and no others. -/
theorem check_eq_ok_iff {width : Width} {ranges : List CodeRange} :
    check width ranges = .ok () ↔ ranges ≠ [] ∧ Canonical ranges := by
  rw [← firstUnordered?_eq_none_iff]
  unfold check
  split
  · next h =>
    constructor
    · intro hcheck
      cases hcheck
    · exact fun hboth => absurd h hboth.1
  · next h =>
    split
    · next entry hentry =>
      constructor
      · intro hcheck
        cases hcheck
      · intro hboth
        rw [hentry] at hboth
        cases hboth.2
    · next hnone => exact ⟨fun _ => ⟨h, hnone⟩, fun _ => rfl⟩

end Table

end CellWidth
