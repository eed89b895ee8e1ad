import CellWidth.Proofs.Text.Hex

/-!
# Arithmetic in words

A machine computes in words of so many bits. A step whose result does not fit into its word has
none, and neither has what would be computed from it.

* `Word.add?`, `Word.sub?`, `Word.mul?` : the steps.
* `Word.value? bits numeral` : the number of a hexadecimal numeral, taken up digit by digit in one
  word. The word never holds more than the digits so far are worth, so that it is too narrow for
  some step exactly if it is too narrow for the number (`value?_eq_some_iff_fits`), however many
  zeros stand in front.
-/

namespace CellWidth.Word

open Text.Hex (Denotes digitValue? valueFrom?)

variable {bits a b n high : Nat} {c : Char} {numeral : List Char}

/-! ## Steps -/

/-- The sum, if it fits into the bits. -/
def add? (bits a b : Nat) : Option Nat :=
  if a + b < 2 ^ bits then some (a + b) else none

/-- The difference, if it is not negative. -/
def sub? (a b : Nat) : Option Nat :=
  if b ≤ a then some (a - b) else none

/-- The product, if it fits into the bits. -/
def mul? (bits a b : Nat) : Option Nat :=
  if a * b < 2 ^ bits then some (a * b) else none

theorem add?_eq_some_iff : add? bits a b = some n ↔ a + b = n ∧ n < 2 ^ bits := by
  unfold add?
  split <;> simp <;> omega

theorem mul?_eq_some_iff : mul? bits a b = some n ↔ a * b = n ∧ n < 2 ^ bits := by
  unfold mul?
  split <;> simp <;> omega

/-! ## Numerals -/

/-- Takes up one digit more behind those that are worth `high`. -/
def push? (bits high : Nat) (c : Char) : Option Nat :=
  (digitValue? c).bind fun d => (mul? bits high 16).bind fun shifted => add? bits shifted d

/-- The number of a numeral, if it fits into the bits. -/
def value? (bits : Nat) : List Char → Option Nat
  | [] => none
  | c :: numeral => (c :: numeral).foldlM (push? bits) 0

theorem push?_eq_some_iff :
    push? bits high c = some n ↔ ∃ d, digitValue? c = some d ∧ 16 * high + d = n ∧ n < 2 ^ bits := by
  simp only [push?, Option.bind_eq_some_iff, mul?_eq_some_iff, add?_eq_some_iff, Nat.mul_comm high]
  constructor
  · rintro ⟨d, hd, shifted, ⟨rfl, -⟩, hsum⟩
    exact ⟨d, hd, hsum⟩
  · rintro ⟨d, hd, hsum, hfits⟩
    -- the product on the way to the sum is no larger
    have hproduct : 16 * high < 2 ^ bits := by omega
    exact ⟨d, hd, 16 * high, ⟨rfl, hproduct⟩, hsum, hfits⟩

/-- What does not fit after one digit is too large for good: no later digit makes it smaller. -/
theorem foldlM_push?_eq_some_iff (hhigh : high < 2 ^ bits) :
    numeral.foldlM (push? bits) high = some n ↔ valueFrom? high numeral = some n ∧ n < 2 ^ bits := by
  induction numeral generalizing high with
  | nil =>
    simp only [List.foldlM_nil, valueFrom?, Option.pure_def, Option.some.injEq]
    exact ⟨fun h => ⟨h, h ▸ hhigh⟩, fun h => h.1⟩
  | cons c numeral ih =>
    rw [List.foldlM_cons, valueFrom?]
    constructor
    · intro h
      obtain ⟨next, hpush, hrest⟩ := Option.bind_eq_some_iff.1 h
      obtain ⟨d, hd, rfl, hfits⟩ := push?_eq_some_iff.1 hpush
      rw [hd]
      exact (ih hfits).1 hrest
    · rintro ⟨hvalue, hfits⟩
      split at hvalue
      · next d hd =>
        have hle : 16 * high + d ≤ n := Text.Hex.le_of_valueFrom?_eq_some hvalue
        have hnext : 16 * high + d < 2 ^ bits := Nat.lt_of_le_of_lt hle hfits
        have hpush : push? bits high c = some (16 * high + d) :=
          push?_eq_some_iff.2 ⟨d, hd, rfl, hnext⟩
        rw [hpush]
        exact (ih hnext).2 ⟨hvalue, hfits⟩
      · cases hvalue

/-- The word is too narrow for some step on the way exactly if it is too narrow for the number. -/
theorem value?_eq_some_iff_fits : value? bits numeral = some n ↔ Denotes numeral n ∧ n < 2 ^ bits := by
  rw [← Text.Hex.value?_eq_some_iff]
  cases numeral with
  | nil => simp [value?, Text.Hex.value?]
  | cons c numeral =>
    rw [value?, Text.Hex.value?]
    exact foldlM_push?_eq_some_iff (Nat.two_pow_pos bits)

/-- Eight digits fill 32 bits. -/
example : value? 32 "00fFFFFFFF".toList = some (2 ^ 32 - 1) ∧
    value? 32 "100000041".toList = none := by decide

end CellWidth.Word
