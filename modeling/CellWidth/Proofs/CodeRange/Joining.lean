import Mathlib.Order.Interval.Set.OrdConnected
import CellWidth.Table

/-!
# Which ranges are joined

Two ranges are joined unless one lies before the other with a gap between them. What this means for
the code values that they hold:

* `exists_join?_iff` : the join exists if no gap parts the two. `ordConnected_iff` : then the code
  values that either range holds are consecutive.
* `Overlaps.not_abuts`, `Abuts.not_abuts` : there is one reason for a join, and not two.
* `hull_assoc`, `join?_hull`, `hull_join?` : three ranges in a row are joined from either end.
* `join?_unites` : all of it.
-/

namespace CellWidth.CodeRange

variable {a b c r : CodeRange}

/-! ## Two ranges -/

/-- Ranges overlap or abut exactly if none of them lies before the other. -/
theorem joinable_iff :
    (a.Overlaps b ∨ a.Abuts b ∨ b.Abuts a) ↔ ¬ Before a b ∧ ¬ Before b a := by
  have ha := a.start_le_stop
  have hb := b.start_le_stop
  unfold Overlaps Abuts Before
  omega

theorem join?_eq_some_iff :
    a.join? b = some r ↔ (¬ Before a b ∧ ¬ Before b a) ∧ a.hull b = r := by
  rw [← joinable_iff, join?, Option.ite_none_right_eq_some, Option.some.injEq]

theorem exists_join?_iff : (∃ r, a.join? b = some r) ↔ ¬ Before a b ∧ ¬ Before b a := by
  simp only [join?_eq_some_iff, exists_and_left, exists_eq', and_true]

/-- A gap between two ranges parts their code values. -/
theorem not_before_of_ordConnected (h : Set.OrdConnected {code | code ∈ a ∨ code ∈ b}) :
    ¬ Before a b := by
  intro hgap
  have ha : a.stop ∈ a := ⟨a.start_le_stop, Nat.le_refl _⟩
  have hb : b.start ∈ b := ⟨Nat.le_refl _, b.start_le_stop⟩
  unfold Before at hgap
  -- the code value right behind the first range lies in neither
  have hbetween : a.stop + 1 ∈ a ∨ a.stop + 1 ∈ b :=
    h.out (.inl ha) (.inr hb) ⟨Nat.le_succ _, by omega⟩
  simp only [mem_iff] at hbetween
  omega

/-- The code values of two ranges are consecutive exactly if no gap parts the ranges. -/
theorem ordConnected_iff :
    Set.OrdConnected {code | code ∈ a ∨ code ∈ b} ↔ ¬ Before a b ∧ ¬ Before b a := by
  constructor
  · intro h
    refine ⟨not_before_of_ordConnected h, not_before_of_ordConnected ?_⟩
    simpa only [or_comm] using h
  · rintro ⟨hab, hba⟩
    refine ⟨fun low hlow high hhigh code hcode => ?_⟩
    simp only [Set.mem_ofPred_eq, Set.mem_Icc, mem_iff, Before] at *
    omega

theorem Overlaps.not_abuts (h : a.Overlaps b) : ¬ a.Abuts b ∧ ¬ b.Abuts a := by
  unfold Overlaps at h
  unfold Abuts
  omega

theorem Abuts.not_abuts (h : a.Abuts b) : ¬ b.Abuts a := by
  have ha := a.start_le_stop
  have hb := b.start_le_stop
  unfold Abuts at *
  omega

/-! ## Three ranges -/

theorem hull_assoc (a b c : CodeRange) : (a.hull b).hull c = a.hull (b.hull c) :=
  eq_of_bounds (Nat.min_assoc ..) (Nat.max_assoc ..)

/-- A range that is joined with the last one of a row is joined with the row. -/
theorem join?_hull (h : b.join? c = some r) : (a.hull b).join? c = some ((a.hull b).hull c) := by
  have hnear := (join?_eq_some_iff.1 h).1
  refine join?_eq_some_iff.2 ⟨?_, rfl⟩
  simp only [Before, hull] at *
  omega

/-- A range that is joined with the first one of a row is joined with the row. -/
theorem hull_join? (h : a.join? b = some r) : a.join? (b.hull c) = some (a.hull (b.hull c)) := by
  have hnear := (join?_eq_some_iff.1 h).1
  refine join?_eq_some_iff.2 ⟨?_, rfl⟩
  simp only [Before, hull] at *
  omega

/-- **What is joined.** Two ranges are joined exactly if the code values that they hold are
consecutive, and to a range of these code values, in whichever order. There is one reason for it:
they share a code value, or the second one abuts the first, or the first one the second. Of three
ranges in a row the first two may be joined first, or the last two. -/
theorem join?_unites :
    (∀ a b : CodeRange,
      ((∃ r, a.join? b = some r) ↔ Set.OrdConnected {code | code ∈ a ∨ code ∈ b}) ∧
      (∀ r, a.join? b = some r → r.start ≤ r.stop ∧ ∀ code, code ∈ r ↔ code ∈ a ∨ code ∈ b) ∧
      a.join? b = b.join? a ∧
      ¬ (a.Overlaps b ∧ a.Abuts b) ∧ ¬ (a.Overlaps b ∧ b.Abuts a) ∧ ¬ (a.Abuts b ∧ b.Abuts a) ∧
      (a.Overlaps b ↔ ∃ code, code ∈ a ∧ code ∈ b)) ∧
    ∀ a b c ab bc : CodeRange, a.join? b = some ab → b.join? c = some bc →
      ∃ abc, ab.join? c = some abc ∧ a.join? bc = some abc := by
  constructor
  · intro a b
    refine ⟨exists_join?_iff.trans ordConnected_iff.symm, fun r h => ⟨r.start_le_stop, mem_join? h⟩,
      join?_comm a b, ?_, ?_, ?_, overlaps_iff⟩
    · exact fun hboth => hboth.1.not_abuts.1 hboth.2
    · exact fun hboth => hboth.1.not_abuts.2 hboth.2
    · exact fun hboth => hboth.1.not_abuts hboth.2
  · intro a b c ab bc hab hbc
    obtain rfl : a.hull b = ab := (join?_eq_some_iff.1 hab).2
    obtain rfl : b.hull c = bc := (join?_eq_some_iff.1 hbc).2
    refine ⟨(a.hull b).hull c, join?_hull hbc, ?_⟩
    rw [hull_assoc]
    exact hull_join? hab

/-- The middle one of three ranges abuts the first, and the last one overlaps it, up to the last
code value. That one is not joined with the first code value. -/
theorem join?_unites_of_ranges :
    (∃ abc : CodeRange,
      join? ⟨0x10, 0x20, by decide, by decide⟩ ⟨0x18, 0xFFFFFFFF, by decide, by decide⟩ =
          some abc ∧
        join? ⟨0x10, 0x17, by decide, by decide⟩ ⟨0x18, 0xFFFFFFFF, by decide, by decide⟩ =
          some abc) ∧
    ¬ Set.OrdConnected {code | code ∈ (⟨0xFFFFFFFF, 0xFFFFFFFF, by decide, by decide⟩ : CodeRange) ∨
      code ∈ (⟨0, 0, by decide, by decide⟩ : CodeRange)} := by
  rcases join?_unites with ⟨htwo, hthree⟩
  constructor
  · exact hthree ⟨0x10, 0x17, by decide, by decide⟩ ⟨0x18, 0x20, by decide, by decide⟩
      ⟨0x20, 0xFFFFFFFF, by decide, by decide⟩ ⟨0x10, 0x20, by decide, by decide⟩
      ⟨0x18, 0xFFFFFFFF, by decide, by decide⟩ rfl rfl
  · have hnone : join? ⟨0xFFFFFFFF, 0xFFFFFFFF, by decide, by decide⟩
        ⟨0, 0, by decide, by decide⟩ = none := rfl
    rw [← (htwo _ _).1, hnone]
    rintro ⟨r, h⟩
    cases h

end CellWidth.CodeRange
