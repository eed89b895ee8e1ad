import Mathlib
import CellWidth.Summary
import CellWidth.Proofs.Table.Merging

/-!
# What summaries count

A summary adds up the sizes of the ranges. A code value that lies in several of them is counted for
each, so that the sum tells how many are covered only if no two ranges overlap.

* `covered ranges` : the code values that the ranges cover, as a finite set.
* `card_covered_le`, `card_covered_eq_iff` : there are no more of them than the sum says, and as
  many exactly if no two ranges overlap.
* `length_coalesce_eq_iff` : coalescing leaves the number of ranges as it is exactly if no two can
  be joined. `totalSize_coalesce` : its sum is the number of code values that are covered.
* `Summary.ofRanges_counts` : all of it about the summaries of a list and of its table.
-/

namespace CellWidth

open CodeRange (totalSize)

variable {xs : List CodeRange} {r a b current : CodeRange} {rest : List CodeRange} {c : Nat}

/-! ## Code values -/

/-- The code values that the ranges cover. -/
def covered : List CodeRange → Finset Nat
  | [] => ∅
  | r :: rest => Finset.Icc r.start r.stop ∪ covered rest

theorem mem_covered : c ∈ covered xs ↔ Covers xs c := by
  induction xs with
  | nil => simp [covered, Covers]
  | cons r rest ih =>
    rw [covered, Finset.mem_union, Finset.mem_Icc, ih, ← CodeRange.mem_iff]
    simp [Covers]

theorem ncard_covers (xs : List CodeRange) : {c | Covers xs c}.ncard = (covered xs).card := by
  have hset : {c | Covers xs c} = ↑(covered xs) := Set.ext fun c => mem_covered.symm
  rw [hset, Set.ncard_coe_finset]

theorem card_Icc_eq_size (r : CodeRange) : (Finset.Icc r.start r.stop).card = r.size := by
  have hbounds := r.start_le_stop
  rw [Nat.card_Icc, CodeRange.size]
  omega

/-- One range more adds its size, but for the code values that were covered before. -/
theorem card_covered_cons (r : CodeRange) (rest : List CodeRange) :
    (covered (r :: rest)).card + (Finset.Icc r.start r.stop ∩ covered rest).card =
      r.size + (covered rest).card := by
  rw [covered, Finset.card_union_add_card_inter, card_Icc_eq_size]

theorem totalSize_cons (r : CodeRange) (rest : List CodeRange) :
    totalSize (r :: rest) = r.size + totalSize rest := rfl

theorem card_covered_le (xs : List CodeRange) : (covered xs).card ≤ totalSize xs := by
  induction xs with
  | nil => exact Nat.le_refl 0
  | cons r rest ih =>
    have hcons := card_covered_cons r rest
    rw [totalSize_cons]
    omega

/-- A range shares nothing with some others exactly if it overlaps none of them. -/
theorem card_inter_covered_eq_zero_iff :
    (Finset.Icc r.start r.stop ∩ covered rest).card = 0 ↔ ∀ s ∈ rest, ¬ r.Overlaps s := by
  simp only [Finset.card_eq_zero, Finset.eq_empty_iff_forall_notMem, Finset.mem_inter,
    Finset.mem_Icc, mem_covered, CodeRange.overlaps_iff, Covers, CodeRange.mem_iff]
  constructor
  · rintro hnone s hs ⟨c, hr, hc⟩
    exact hnone c ⟨hr, s, hs, hc⟩
  · rintro hnone c ⟨hr, s, hs, hc⟩
    exact hnone s hs ⟨c, hr, hc⟩

/-- The sum tells how many code values are covered exactly if no two ranges overlap. -/
theorem card_covered_eq_iff :
    (covered xs).card = totalSize xs ↔ xs.Pairwise fun a b => ¬ a.Overlaps b := by
  induction xs with
  | nil => simp [covered, totalSize]
  | cons r rest ih =>
    have hcons := card_covered_cons r rest
    have hle := card_covered_le rest
    rw [List.pairwise_cons, ← ih, ← card_inter_covered_eq_zero_iff, totalSize_cons]
    omega

/-- Fewer than `2 ^ 32` ranges are added up within 64 bits. -/
theorem totalSize_lt (h : xs.length < 2 ^ 32) : totalSize xs < 2 ^ 64 := by
  have hle (ranges : List CodeRange) : totalSize ranges ≤ ranges.length * 2 ^ 32 := by
    induction ranges with
    | nil => exact Nat.le_refl 0
    | cons r rest ih =>
      have hsize : r.size ≤ 2 ^ 32 := by
        have hlimit : r.stop < 2 ^ 32 := r.stop_lt_limit
        rw [CodeRange.size]
        omega
      rw [totalSize_cons, List.length_cons]
      omega
  have htotal := hle xs
  omega

/-! ## Coalescing -/

theorem length_absorb_le (current : CodeRange) (rest : List CodeRange) :
    (absorb current rest).length ≤ rest.length + 1 := by
  induction rest generalizing current with
  | nil => exact Nat.le_refl 1
  | cons next rest ih =>
    unfold absorb
    split
    · next joined _ => exact Nat.le_succ_of_le (ih joined)
    · exact Nat.succ_le_succ (ih next)

/-- The scan has as many ranges to give as it was given only if it joined none. -/
theorem absorb_eq_of_length (h : (absorb current rest).length = rest.length + 1) :
    absorb current rest = current :: rest := by
  induction rest generalizing current with
  | nil => rfl
  | cons next rest ih =>
    unfold absorb at h ⊢
    split at h
    · next joined _ =>
      have hle := length_absorb_le joined rest
      rw [List.length_cons] at h
      omega
    · rw [ih (Nat.succ.inj h)]

theorem length_byStart (xs : List CodeRange) : (byStart xs).length = xs.length :=
  List.length_mergeSort xs

theorem length_coalesce_le (xs : List CodeRange) : (coalesce xs).length ≤ xs.length := by
  rw [← length_byStart xs, coalesce]
  cases byStart xs with
  | nil => exact Nat.le_refl 0
  | cons first rest => exact length_absorb_le first rest

theorem coalesce_eq_byStart_of_length (h : (coalesce xs).length = xs.length) :
    coalesce xs = byStart xs := by
  rw [← length_byStart xs, coalesce] at h
  rw [coalesce]
  cases hsorted : byStart xs with
  | nil => rfl
  | cons first rest =>
    rw [hsorted] at h
    exact absorb_eq_of_length h

/-- A range is not joined with one that starts no earlier exactly if it lies before it. -/
theorem join?_eq_none_iff_before (hstart : a.start ≤ b.start) : a.join? b = none ↔ Before a b := by
  refine ⟨before_of_join?_eq_none hstart, fun hbefore => CodeRange.join?_eq_none_iff.2 ?_⟩
  have ha := a.start_le_stop
  have hb := b.start_le_stop
  unfold Before at hbefore
  unfold CodeRange.Overlaps CodeRange.Abuts
  omega

theorem canonical_byStart_iff :
    Canonical (byStart xs) ↔ xs.Pairwise fun a b => a.join? b = none := by
  have hperm : (byStart xs).Perm xs := List.mergeSort_perm xs _
  have hsymm : ∀ {a b : CodeRange}, a.join? b = none → b.join? a = none := fun {a b} h =>
    (CodeRange.join?_comm b a).trans h
  have hsorted := byStart_pairwise xs
  rw [← hperm.pairwise_iff hsymm, Canonical]
  constructor
  · intro h
    exact (hsorted.and h).imp fun hboth => (join?_eq_none_iff_before hboth.1).2 hboth.2
  · intro h
    exact (hsorted.and h).imp fun hboth => (join?_eq_none_iff_before hboth.1).1 hboth.2

/-- Coalescing leaves the number of ranges as it is exactly if no two can be joined. -/
theorem length_coalesce_eq_iff :
    (coalesce xs).length = xs.length ↔ xs.Pairwise fun a b => a.join? b = none := by
  rw [← canonical_byStart_iff]
  constructor
  · intro h
    rw [← coalesce_eq_byStart_of_length h]
    exact canonical_coalesce xs
  · intro h
    have hcovers (c : Nat) : Covers (coalesce xs) c ↔ Covers (byStart xs) c :=
      (covers_coalesce xs c).trans (exists_congr fun r => and_congr_left' mem_byStart.symm)
    rw [eq_of_canonical (canonical_coalesce xs) h hcovers, length_byStart]

/-- The ranges of a canonical list do not overlap. -/
theorem Canonical.card_covered (h : Canonical xs) : (covered xs).card = totalSize xs := by
  refine card_covered_eq_iff.2 (h.imp fun {a b} hbefore hoverlaps => ?_)
  unfold Before at hbefore
  unfold CodeRange.Overlaps at hoverlaps
  have hb := b.start_le_stop
  omega

/-- The sum of the coalesced ranges tells how many code values the ranges cover. -/
theorem totalSize_coalesce (xs : List CodeRange) : totalSize (coalesce xs) = (covered xs).card := by
  have hsame : covered (coalesce xs) = covered xs := by
    refine Finset.ext fun c => ?_
    rw [mem_covered, mem_covered, covers_coalesce]
  rw [← hsame, (canonical_coalesce xs).card_covered]

/-! ## Summaries -/

/-- **What summaries count.** Fewer than `2 ^ 32` ranges are added up within 64 bits. The sum is no
less than the number of code values that the ranges cover, and equal to it exactly if no two of them
overlap, as in every list that the check accepts. A table has no more entries than the ranges that
it was made of, and as many exactly if no two of them overlap or abut; its sum is no greater than
theirs, and equal exactly if no two overlap. -/
theorem Summary.ofRanges_counts (width : Width) :
    (∀ xs : List CodeRange, xs.length < 2 ^ 32 → (ofRanges width xs).codepoints < 2 ^ 64) ∧
    (∀ xs : List CodeRange, {c | Covers xs c}.ncard ≤ (ofRanges width xs).codepoints) ∧
    (∀ xs : List CodeRange, (ofRanges width xs).codepoints = {c | Covers xs c}.ncard ↔
      xs.Pairwise fun a b => ¬ a.Overlaps b) ∧
    (∀ xs : List CodeRange, Table.check width xs = .ok () →
      (ofRanges width xs).codepoints = {c | Covers xs c}.ncard) ∧
    ∀ xs : List CodeRange, xs ≠ [] → ∃ table, Table.ofRanges? width xs = .ok table ∧
      (ofRanges width table).entries ≤ (ofRanges width xs).entries ∧
      ((ofRanges width table).entries = (ofRanges width xs).entries ↔
        xs.Pairwise fun a b => ¬ (a.Overlaps b ∨ a.Abuts b ∨ b.Abuts a)) ∧
      (ofRanges width table).codepoints ≤ (ofRanges width xs).codepoints ∧
      ((ofRanges width table).codepoints = (ofRanges width xs).codepoints ↔
        xs.Pairwise fun a b => ¬ a.Overlaps b) := by
  refine ⟨fun xs => totalSize_lt, fun xs => ?_, fun xs => ?_, fun xs hcheck => ?_, fun xs hne => ?_⟩
  · rw [ncard_covers]
    exact card_covered_le xs
  · rw [ncard_covers, eq_comm]
    exact card_covered_eq_iff
  · rw [ncard_covers]
    exact (Table.check_eq_ok_iff.1 hcheck).2.card_covered.symm
  · refine ⟨coalesce xs, Table.ofRanges?_eq_ok_iff.2 ⟨hne, rfl⟩, length_coalesce_le xs, ?_, ?_, ?_⟩
    · simp only [← CodeRange.join?_eq_none_iff]
      exact length_coalesce_eq_iff
    · exact (totalSize_coalesce xs).trans_le (card_covered_le xs)
    · exact (Eq.congr_left (totalSize_coalesce xs)).trans card_covered_eq_iff

/-- Two of three ranges overlap, and two abut: the table has one entry, and its sum lacks what was
counted twice. -/
theorem Summary.ofRanges_counts_of_ranges :
    (ofRanges .zero [⟨0x350, 0x3FF, by decide, by decide⟩, ⟨0x300, 0x36F, by decide, by decide⟩,
      ⟨0x400, 0x400, by decide, by decide⟩]).codepoints < 2 ^ 64 ∧
    (Table.check .zero [⟨0x300, 0x400, by decide, by decide⟩] = .ok () ∧
      {c | Covers [⟨0x300, 0x400, by decide, by decide⟩] c}.ncard = 257) ∧
    Table.ofRanges? .zero [⟨0x350, 0x3FF, by decide, by decide⟩,
        ⟨0x300, 0x36F, by decide, by decide⟩, ⟨0x400, 0x400, by decide, by decide⟩] =
      .ok [⟨0x300, 0x400, by decide, by decide⟩] ∧
    ¬ ([⟨0x350, 0x3FF, by decide, by decide⟩, ⟨0x300, 0x36F, by decide, by decide⟩,
      ⟨0x400, 0x400, by decide, by decide⟩] : List CodeRange).Pairwise
        fun a b => ¬ a.Overlaps b := by
  have hmade : Table.ofRanges? .zero [⟨0x350, 0x3FF, by decide, by decide⟩,
        ⟨0x300, 0x36F, by decide, by decide⟩, ⟨0x400, 0x400, by decide, by decide⟩] =
      .ok [⟨0x300, 0x400, by decide, by decide⟩] := by cbv
  have hcheck : Table.check .zero [⟨0x300, 0x400, by decide, by decide⟩] = .ok () := rfl
  rcases ofRanges_counts .zero with ⟨hbits, -, -, hchecked, htable⟩
  refine ⟨hbits _ (by decide), ⟨hcheck, (hchecked _ hcheck).symm⟩, hmade, ?_⟩
  rcases htable _ (List.cons_ne_nil _ _) with ⟨table, htable, -, -, -, hsum⟩
  rw [hmade] at htable
  cases htable
  rw [← hsum]
  decide

end CellWidth
