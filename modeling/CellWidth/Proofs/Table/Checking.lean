import Mathlib.Data.List.Nodup
import CellWidth.Proofs.Table.Uniqueness

/-!
# What the check tells

The check compares each entry with the one before it and stays within the code values.

* `lastStarting? ranges c` : the last entry that starts no later than `c`, which is where a search
  for `c` ends. In a canonical list no other entry can hold it (`Canonical.lastStarting?_eq_some`).
* `Table.firstUnordered?_eq_some_iff` : the entry that is named is the first at which the list stops
  being canonical.
* `Table.check_outcome` : which lists are accepted, and with what the others are refused.
-/

namespace CellWidth

variable {xs ranges : List CodeRange} {r s : CodeRange} {c : Nat}

/-! ## Searching -/

/-- The last entry that starts no later than the code value. -/
def lastStarting? (ranges : List CodeRange) (c : Nat) : Option CodeRange :=
  ranges.reverse.find? fun r => r.start ≤ c

/-- In a canonical list the entry that holds a code value is the last one that starts no later. -/
theorem Canonical.lastStarting?_eq_some (h : Canonical xs) (hr : r ∈ xs) (hc : c ∈ r) :
    lastStarting? xs c = some r := by
  obtain ⟨before, after, rfl⟩ := List.append_of_mem hr
  have hafter : ∀ later ∈ after, Before r later :=
    (List.pairwise_cons.1 (List.pairwise_append.1 h).2.1).1
  have hreverse : (before ++ r :: after).reverse = after.reverse ++ r :: before.reverse := by simp
  refine List.find?_eq_some_iff_append.2
    ⟨decide_eq_true hc.1, after.reverse, before.reverse, hreverse, ?_⟩
  intro later hlater
  have hgap : Before r later := hafter later (List.mem_reverse.1 hlater)
  have hlate : ¬ later.start ≤ c := by
    have hstop : c ≤ r.stop := hc.2
    unfold Before at hgap
    omega
  simpa using hlate

/-- No code value lies in two entries of a canonical list. -/
theorem Canonical.eq_of_mem_of_mem (h : Canonical xs) (hr : r ∈ xs) (hs : s ∈ xs) (hcr : c ∈ r)
    (hcs : c ∈ s) : r = s := by
  have hfound := h.lastStarting?_eq_some hr hcr
  rw [h.lastStarting?_eq_some hs hcs] at hfound
  exact (Option.some.inj hfound).symm

/-- The beginnings of a list stay canonical if an entry before its first one is put in front. -/
theorem canonical_cons_take_iff {a b : CodeRange} {rest : List CodeRange} {k : Nat}
    (hab : Before a b) :
    Canonical (a :: (b :: rest).take k) ↔ Canonical ((b :: rest).take k) := by
  cases k with
  | zero => simp [Canonical]
  | succ k => rw [List.take_succ_cons, canonical_cons_cons_iff, and_iff_right hab]

/-- Of a list whose second entry is out of order, only the first entry is canonical. -/
theorem canonical_take_iff_of_not_before {a b : CodeRange} {rest : List CodeRange} {k : Nat}
    (hab : ¬ Before a b) : Canonical ((a :: b :: rest).take k) ↔ k ≤ 1 := by
  cases k with
  | zero => simp [Canonical]
  | succ k =>
    cases k with
    | zero => simp [Canonical]
    | succ k =>
      rw [List.take_succ_cons, List.take_succ_cons, canonical_cons_cons_iff]
      simp [hab]

namespace Table

variable {width : Width} {fault : Fault} {k : Nat}

/-! ## The first entry out of order -/

/-- The entry that is named is the first one up to which the list is not canonical. -/
theorem firstUnordered?_eq_some_iff :
    firstUnordered? ranges = some k ↔
      k < ranges.length ∧ Canonical (ranges.take k) ∧ ¬ Canonical (ranges.take (k + 1)) := by
  -- a single entry is canonical, so that the first one is never named
  have hsingle (a : CodeRange) : Canonical [a] := List.pairwise_singleton _ _
  induction ranges generalizing k with
  | nil => simp [firstUnordered?]
  | cons a ranges ih =>
    cases ranges with
    | nil =>
      simp only [firstUnordered?, reduceCtorEq, List.length_singleton, Nat.lt_one_iff, false_iff]
      rintro ⟨rfl, -, hbad⟩
      exact hbad (hsingle a)
    | cons b rest =>
      rw [firstUnordered?_cons_cons]
      split
      · next hab =>
        rw [Option.map_eq_some_iff]
        constructor
        · rintro ⟨j, hj, rfl⟩
          obtain ⟨hlt, hgood, hbad⟩ := ih.1 hj
          rw [List.take_succ_cons, List.take_succ_cons, canonical_cons_take_iff hab,
            canonical_cons_take_iff hab]
          exact ⟨Nat.succ_lt_succ hlt, hgood, hbad⟩
        · rintro ⟨hlt, hgood, hbad⟩
          cases k with
          | zero => exact absurd (hsingle a) hbad
          | succ k =>
            rw [List.take_succ_cons, canonical_cons_take_iff hab] at hgood hbad
            exact ⟨k, ih.2 ⟨Nat.lt_of_succ_lt_succ hlt, hgood, hbad⟩, rfl⟩
      · next hab =>
        simp only [Option.some.injEq, List.length_cons, canonical_take_iff_of_not_before hab]
        omega

/-- The same, said by the check itself: it accepts the list up to this entry, but not with it. -/
theorem firstUnordered?_eq_some_iff_check (width : Width) :
    firstUnordered? ranges = some k ↔
      1 ≤ k ∧ k < ranges.length ∧ check width (ranges.take k) = .ok () ∧
        check width (ranges.take (k + 1)) ≠ .ok () := by
  simp only [firstUnordered?_eq_some_iff, check_eq_ok_iff, ne_eq]
  have hnil (m : Nat) (hm : 1 ≤ m) (hk : k < ranges.length) : ranges.take m ≠ [] := by
    intro hnil
    rcases List.take_eq_nil_iff.1 hnil with hzero | hempty
    · omega
    · simp [hempty] at hk
  constructor
  · rintro ⟨hlt, hgood, hbad⟩
    have hpos : 1 ≤ k := by
      rcases Nat.eq_zero_or_pos k with rfl | hpos
      · -- a list of one entry is canonical
        obtain ⟨a, rest, rfl⟩ := List.exists_cons_of_length_pos hlt
        exact absurd (List.pairwise_singleton _ _) hbad
      · exact hpos
    exact ⟨hpos, hlt, ⟨hnil k hpos hlt, hgood⟩, fun hboth => hbad hboth.2⟩
  · rintro ⟨-, hlt, ⟨-, hgood⟩, hbad⟩
    exact ⟨hlt, hgood, fun hcanonical => hbad ⟨hnil (k + 1) (Nat.le_add_left 1 k) hlt, hcanonical⟩⟩

/-- The check refuses the empty list as such and any other one at its first entry out of order. -/
theorem check_eq_error_iff :
    check width ranges = .error fault ↔
      (ranges = [] ∧ fault = .emptyTable width) ∨
        ∃ k, fault = .unordered width k ∧ firstUnordered? ranges = some k := by
  unfold check
  split
  · next h => simp [h, firstUnordered?, eq_comm]
  · next h =>
    split
    · next entry hentry => simp [h, hentry, eq_comm]
    · next hnone => simp [h, hnone]

/-! ## The check -/

/-- **What the check tells.** It accepts a list if there are entries and each of them stops at least
one code value before any later one starts. Then a code value lies in one entry at most, the last
one that starts no later. The empty list is refused as such, and any other one at the entry up to
which it is accepted, but not with it. -/
theorem check_outcome (width : Width) (ranges : List CodeRange) :
    (check width ranges = .ok () ↔
      ranges ≠ [] ∧ ∀ (j : Nat) (_ : j < ranges.length) (i : Nat) (_ : i < j),
        ranges[i].stop + 1 < ranges[j].start) ∧
    (check width ranges = .ok () → ∀ (c i : Nat) (_ : i < ranges.length), c ∈ ranges[i] →
      lastStarting? ranges c = some ranges[i] ∧
      ∀ (j : Nat) (_ : j < ranges.length), c ∈ ranges[j] → j = i) ∧
    ∀ fault, check width ranges = .error fault ↔
      (ranges = [] ∧ fault = .emptyTable width) ∨
        ∃ k, fault = .unordered width k ∧ 1 ≤ k ∧ k < ranges.length ∧
          check width (ranges.take k) = .ok () ∧ check width (ranges.take (k + 1)) ≠ .ok () := by
  refine ⟨?_, fun hok c i hi hc => ⟨?_, fun j hj hcj => ?_⟩, fun fault => ?_⟩
  · rw [check_eq_ok_iff, Canonical, List.pairwise_iff_getElem]
    constructor
    · rintro ⟨hne, hpairs⟩
      exact ⟨hne, fun j hj i hij => hpairs i j _ hj hij⟩
    · rintro ⟨hne, hpairs⟩
      exact ⟨hne, fun i j _ hj hij => hpairs j hj i hij⟩
  · exact (check_eq_ok_iff.1 hok).2.lastStarting?_eq_some (List.getElem_mem hi) hc
  · have hcanonical : Canonical ranges := (check_eq_ok_iff.1 hok).2
    have hsame : ranges[j] = ranges[i] :=
      hcanonical.eq_of_mem_of_mem (List.getElem_mem hj) (List.getElem_mem hi) hcj hc
    exact (List.Nodup.getElem_inj_iff hcanonical.nodup).1 hsame
  · simp only [check_eq_error_iff, firstUnordered?_eq_some_iff_check width]

/-- A list is accepted up to the last code value, and no entry behind it; whatever comes later, the
first entry out of order is named. -/
theorem check_outcome_of_ranges :
    check .zero [⟨0, 2, by decide, by decide⟩, ⟨4, 0xFFFFFFFF, by decide, by decide⟩] = .ok () ∧
    lastStarting? [⟨0, 2, by decide, by decide⟩, ⟨4, 0xFFFFFFFF, by decide, by decide⟩] 0xFFFFFFFF =
      some ⟨4, 0xFFFFFFFF, by decide, by decide⟩ ∧
    check .zero [⟨0, 2, by decide, by decide⟩, ⟨4, 0xFFFFFFFF, by decide, by decide⟩,
        ⟨0xFFFFFFFF, 0xFFFFFFFF, by decide, by decide⟩, ⟨3, 3, by decide, by decide⟩] =
      .error (.unordered .zero 2) := by
  have hok : check .zero [⟨0, 2, by decide, by decide⟩, ⟨4, 0xFFFFFFFF, by decide, by decide⟩] =
      .ok () := rfl
  refine ⟨hok, ((check_outcome _ _).2.1 hok 0xFFFFFFFF 1 (by decide) (by decide)).1, ?_⟩
  refine ((check_outcome _ _).2.2 _).2 (.inr ⟨2, rfl, by decide, by decide, hok, ?_⟩)
  intro haccepted
  cases haccepted

end Table

end CellWidth
