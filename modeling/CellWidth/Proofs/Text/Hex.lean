import Mathlib.Data.List.Forall2
import Mathlib.Data.List.Induction
import Mathlib.Data.Nat.Digits.Defs
import CellWidth.Text.Hex

/-!
# Numerals and numbers

* `IsDigit c` : `c` is a hexadecimal digit of either case. Numerals, padded or not, hold nothing
  else (`isDigit_of_mem_padded`).
* `value?_padded` : zeros in front do not change the number that is read, so that numerals tell
  numbers apart (`padded_injective`). `digits_lower` : the digits are those of `Nat.toDigits`.
* `Denotes numeral n` : the digits of the numeral are those of the number in base sixteen. The
  reader finds this number (`value?_eq_some_iff`), and none for what is empty or holds another sign
  (`value?_eq_none_iff`).
* `exists_denotes_iff` : the texts that stand for a number are those of `signs`.
  `denotes_respelled_iff` : zeros in front and the case of letters leave the number as it is.
-/

namespace CellWidth.Text.Hex

variable {letters : Letters} {width n : Nat} {c : Char}

/-- An ASCII hexadecimal digit. -/
def IsDigit (c : Char) : Prop :=
  digitValue? c ≠ none

instance (c : Char) : Decidable (IsDigit c) :=
  inferInstanceAs (Decidable (_ ≠ _))

theorem isDigit_digit (letters : Letters) {d : Nat} (hd : d < 16) : IsDigit (digit letters d) := by
  simp [IsDigit, digitValue?_digit letters hd]

theorem isDigit_of_mem_digits (h : c ∈ digits letters n) : IsDigit c := by
  induction n using Nat.strongRecOn with
  | _ n ih =>
  unfold digits at h
  split at h
  · next hn =>
    rw [List.mem_singleton.1 h]
    exact isDigit_digit letters hn
  · next hn =>
    rcases List.mem_append.1 h with hmem | hmem
    · exact ih (n / 16) (by omega) hmem
    · rw [List.mem_singleton.1 hmem]
      exact isDigit_digit letters (Nat.mod_lt n (by decide))

theorem isDigit_of_mem_padded (h : c ∈ padded letters width n) : IsDigit c := by
  rcases List.mem_append.1 h with hmem | hmem
  · rw [List.eq_of_mem_replicate hmem]
    decide
  · exact isDigit_of_mem_digits hmem

/-- A sign that is no digit does not stand in a numeral. -/
theorem not_mem_padded (h : ¬ IsDigit c) : c ∉ padded letters width n :=
  fun hmem => h (isDigit_of_mem_padded hmem)

theorem valueFrom?_replicate_append (k : Nat) (numeral : List Char) :
    valueFrom? 0 (List.replicate k '0' ++ numeral) = valueFrom? 0 numeral := by
  induction k with
  | zero => rfl
  | succ k ih => exact ih

theorem value?_eq_valueFrom? {numeral : List Char} (h : numeral ≠ []) :
    value? numeral = valueFrom? 0 numeral := by
  cases numeral with
  | nil => exact absurd rfl h
  | cons c numeral => rfl

theorem padded_ne_nil (letters : Letters) (width n : Nat) : padded letters width n ≠ [] :=
  List.append_ne_nil_of_right_ne_nil _ (digits_ne_nil letters n)

/-- Reading gives back the number that was written, whatever the width. -/
theorem value?_padded (letters : Letters) (width n : Nat) :
    value? (padded letters width n) = some n := by
  rw [value?_eq_valueFrom? (padded_ne_nil letters width n), padded, List.leftpad,
    valueFrom?_replicate_append, valueFrom?_digits]

/-- Different numbers have different numerals. -/
theorem padded_injective (letters : Letters) (width : Nat) :
    Function.Injective (padded letters width) := by
  intro m n hsame
  have hread := value?_padded letters width m
  rw [hsame, value?_padded] at hread
  exact (Option.some.inj hread).symm

/-! ## The digits of the library -/

theorem digit_lower {d : Nat} (hd : d < 16) : digit .lower d = d.digitChar := by
  have table : ∀ d ∈ List.range 16, digit .lower d = d.digitChar := by decide
  exact table d (List.mem_range.2 hd)

theorem digits_lower (n : Nat) : digits .lower n = Nat.toDigits 16 n := by
  induction n using Nat.strongRecOn with
  | _ n ih =>
    rw [digits, Nat.toDigits_eq_if (by decide)]
    split
    · next hn => rw [digit_lower hn]
    · next hn => rw [ih (n / 16) (by omega), digit_lower (Nat.mod_lt n (by decide))]

/-! ## What a numeral stands for -/

variable {numeral : List Char}

/-- The sign is the digit for the value, a letter in either case. -/
def IsDigitOf (c : Char) (d : Nat) : Prop :=
  d < 16 ∧ ∃ letters, digit letters d = c

/-- The numeral is not empty and its signs are digits. Counted from the last one, they are the
digits of the number in base sixteen; there may be zeros in front. -/
structure Denotes (numeral : List Char) (n : Nat) : Prop where
  ne_nil : numeral ≠ []
  exists_digits : ∃ ds, List.Forall₂ IsDigitOf numeral.reverse ds ∧ Nat.ofDigits 16 ds = n

theorem digitValue?_eq_some_iff {d : Nat} : digitValue? c = some d ↔ IsDigitOf c d := by
  have hzero : '0'.toNat = 48 := rfl
  have hsmall : 'a'.toNat = 97 := rfl
  have hcapital : 'A'.toNat = 65 := rfl
  constructor
  · intro h
    unfold digitValue? at h
    -- one case for each run of digits: decimal ones, small letters, capital letters
    split at h
    · next hrun =>
      have hrun : 48 ≤ c.toNat ∧ c.toNat ≤ 57 := hrun
      cases h
      refine ⟨by omega, .lower, ?_⟩
      rw [digit, if_pos (by omega), Nat.add_sub_cancel' (by omega), Char.ofNat_toNat]
    split at h
    · next hrun =>
      have hrun : 97 ≤ c.toNat ∧ c.toNat ≤ 102 := hrun
      cases h
      refine ⟨by omega, .lower, ?_⟩
      rw [digit, if_neg (by omega), Nat.add_sub_cancel, Nat.add_sub_cancel' (by omega),
        Char.ofNat_toNat]
    split at h
    · next hrun =>
      have hrun : 65 ≤ c.toNat ∧ c.toNat ≤ 70 := hrun
      cases h
      refine ⟨by omega, .upper, ?_⟩
      rw [digit, if_neg (by omega), Nat.add_sub_cancel, Nat.add_sub_cancel' (by omega),
        Char.ofNat_toNat]
    · cases h
  · rintro ⟨hd, letters, rfl⟩
    exact digitValue?_digit letters hd

theorem digitValue?_eq_none_iff : digitValue? c = none ↔ ∀ d, ¬ IsDigitOf c d := by
  simp only [← digitValue?_eq_some_iff, Option.eq_none_iff_forall_ne_some, ne_eq]

theorem valueFrom?_eq_some_iff :
    valueFrom? 0 numeral = some n ↔
      ∃ ds, List.Forall₂ IsDigitOf numeral.reverse ds ∧ Nat.ofDigits 16 ds = n := by
  -- on the digits, last one first, as the reader takes them in
  induction numeral using List.reverseRecOn generalizing n with
  | nil => simp [valueFrom?, List.forall₂_nil_left_iff]
  | append_singleton numeral c ih =>
    rw [valueFrom?_append_singleton, Option.bind_eq_some_iff, List.reverse_append,
      List.reverse_singleton, List.singleton_append]
    simp only [Option.map_eq_some_iff, digitValue?_eq_some_iff, ih, List.forall₂_cons_left_iff]
    constructor
    · rintro ⟨high, ⟨ds, hds, rfl⟩, d, hd, rfl⟩
      exact ⟨d :: ds, ⟨d, ds, hd, hds, rfl⟩, by rw [Nat.ofDigits_cons, Nat.add_comm]⟩
    · rintro ⟨_, ⟨d, ds, hd, hds, rfl⟩, rfl⟩
      exact ⟨_, ⟨ds, hds, rfl⟩, d, hd, by rw [Nat.ofDigits_cons, Nat.add_comm]⟩

/-- The reader finds the number that a numeral stands for, whatever its size. -/
theorem value?_eq_some_iff : value? numeral = some n ↔ Denotes numeral n := by
  cases numeral with
  | nil =>
    simp only [value?, reduceCtorEq, false_iff]
    exact fun h => h.ne_nil rfl
  | cons c numeral =>
    rw [value?, valueFrom?_eq_some_iff]
    exact ⟨fun h => ⟨List.cons_ne_nil _ _, h⟩, fun h => h.exists_digits⟩

/-- Each digit makes the number larger, or leaves it as it is. -/
theorem le_of_valueFrom?_eq_some {high : Nat} (h : valueFrom? high numeral = some n) : high ≤ n := by
  induction numeral generalizing high with
  | nil =>
    rw [valueFrom?, Option.some.injEq] at h
    exact Nat.le_of_eq h
  | cons c numeral ih =>
    rw [valueFrom?] at h
    split at h
    · next d _ =>
      have hnext : 16 * high + d ≤ n := ih h
      omega
    · cases h

theorem valueFrom?_eq_none_iff {high : Nat} :
    valueFrom? high numeral = none ↔ ∃ c ∈ numeral, ∀ d, ¬ IsDigitOf c d := by
  induction numeral generalizing high with
  | nil => simp [valueFrom?]
  | cons c numeral ih =>
    rw [valueFrom?]
    split
    · next d hd =>
      have hdigit : IsDigitOf c d := digitValue?_eq_some_iff.1 hd
      rw [ih, List.exists_mem_cons_iff]
      exact (or_iff_right fun h => h d hdigit).symm
    · next hnone => simp [digitValue?_eq_none_iff.1 hnone]

/-- It finds none in a text that is empty or holds a sign that is no digit. -/
theorem value?_eq_none_iff :
    value? numeral = none ↔ numeral = [] ∨ ∃ c ∈ numeral, ∀ d, ¬ IsDigitOf c d := by
  cases numeral with
  | nil => simp [value?]
  | cons c numeral =>
    rw [value?, valueFrom?_eq_none_iff, or_iff_right (List.cons_ne_nil _ _)]

theorem denotes_padded (letters : Letters) (width n : Nat) : Denotes (padded letters width n) n :=
  value?_eq_some_iff.1 (value?_padded letters width n)

/-- A sign that is no digit does not stand in a numeral, whatever the number. -/
theorem Denotes.not_mem (h : Denotes numeral n) (hc : digitValue? c = none) : c ∉ numeral := by
  intro hmem
  have hnone : value? numeral = none :=
    value?_eq_none_iff.2 (.inr ⟨c, hmem, digitValue?_eq_none_iff.1 hc⟩)
  rw [value?_eq_some_iff.2 h] at hnone
  cases hnone

/-- A numeral stands for one number only. -/
theorem Denotes.unique {m : Nat} (h : Denotes numeral m) (h' : Denotes numeral n) : m = n := by
  have hread := value?_eq_some_iff.2 h
  rw [value?_eq_some_iff.2 h'] at hread
  exact (Option.some.inj hread).symm

/-! ## Other spellings -/

/-- The signs that are digits. -/
def signs : List Char := "0123456789abcdefABCDEF".toList

theorem isDigit_iff_mem_signs : IsDigit c ↔ c ∈ signs := by
  have htable : signs.all fun c => decide (IsDigit c) := by decide
  have hwritten : ∀ d ∈ List.range 16, digit .lower d ∈ signs ∧ digit .upper d ∈ signs := by decide
  constructor
  · intro h
    obtain ⟨d, hd⟩ := Option.ne_none_iff_exists'.1 h
    obtain ⟨hlt, letters, rfl⟩ := digitValue?_eq_some_iff.1 hd
    cases letters with
    | lower => exact (hwritten d (List.mem_range.2 hlt)).1
    | upper => exact (hwritten d (List.mem_range.2 hlt)).2
  · intro h
    exact of_decide_eq_true (List.all_eq_true.1 htable c h)

/-- Every text of digits stands for a number, and no other text does. -/
theorem exists_denotes_iff :
    (∃ n, Denotes numeral n) ↔ numeral ≠ [] ∧ ∀ c ∈ numeral, c ∈ signs := by
  simp only [← value?_eq_some_iff, ← Option.ne_none_iff_exists', ne_eq, value?_eq_none_iff, not_or,
    not_exists, not_and, ← digitValue?_eq_none_iff, ← isDigit_iff_mem_signs, IsDigit]

theorem digitValue?_toLower (c : Char) : digitValue? c.toLower = digitValue? c := by
  by_cases hcapital : 'A' ≤ c ∧ c ≤ 'Z'
  · have hrange : 65 ≤ c.toNat ∧ c.toNat ≤ 90 := hcapital
    have htable : ∀ k ∈ List.range 26,
        digitValue? (Char.ofNat (65 + k)).toLower = digitValue? (Char.ofNat (65 + k)) := by decide
    have hletter := htable (c.toNat - 65) (List.mem_range.2 (by omega))
    rwa [Nat.add_sub_cancel' hrange.1, Char.ofNat_toNat] at hletter
  · -- only the capital letters of ASCII have another form
    have hsame : c.toLower = c := dif_neg hcapital
    rw [hsame]

theorem valueFrom?_map_toLower (high : Nat) (numeral : List Char) :
    valueFrom? high (numeral.map Char.toLower) = valueFrom? high numeral := by
  induction numeral generalizing high with
  | nil => rfl
  | cons c numeral ih =>
    rw [List.map_cons, valueFrom?, valueFrom?, digitValue?_toLower]
    split
    · exact ih _
    · rfl

/-- Neither the case of letters nor zeros in front change the number. -/
theorem denotes_respelled_iff {respelled : List Char} (hne : numeral ≠ [])
    (hletters : respelled.map Char.toLower = numeral.map Char.toLower) (zeros : Nat) :
    Denotes (List.replicate zeros '0' ++ respelled) n ↔ Denotes numeral n := by
  have hne' : respelled ≠ [] := by
    rintro rfl
    exact hne (List.map_eq_nil_iff.1 hletters.symm)
  rw [← value?_eq_some_iff, ← value?_eq_some_iff,
    value?_eq_valueFrom? (List.append_ne_nil_of_right_ne_nil _ hne'), value?_eq_valueFrom? hne,
    valueFrom?_replicate_append, ← valueFrom?_map_toLower, hletters, valueFrom?_map_toLower]

end CellWidth.Text.Hex
