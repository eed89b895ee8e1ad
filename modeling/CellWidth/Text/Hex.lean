/-!
# Hexadecimal numerals

* Reading: `value? numeral` is the number that a non-empty numeral of ASCII digits stands for,
  whatever the case of its letters, and without bound.
* Writing: `digits letters n` has no zero in front unless `n` is zero; `padded` fills up with
  zeros to a least width and cuts nothing off.
* `valueFrom?_digits` : reading gives back the number that was written.
-/

namespace CellWidth.Text.Hex

/-- The two ways to write the digits above nine. -/
inductive Letters where
  | lower
  | upper
deriving DecidableEq, Repr

/-- The value of one digit, of either case; ASCII digits only. -/
def digitValue? (c : Char) : Option Nat :=
  if '0' ≤ c ∧ c ≤ '9' then some (c.toNat - '0'.toNat)
  else if 'a' ≤ c ∧ c ≤ 'f' then some (c.toNat - 'a'.toNat + 10)
  else if 'A' ≤ c ∧ c ≤ 'F' then some (c.toNat - 'A'.toNat + 10)
  else none

/-- The value of a numeral whose digits so far are worth `high`. -/
def valueFrom? (high : Nat) : List Char → Option Nat
  | [] => some high
  | c :: numeral =>
    match digitValue? c with
    | some d => valueFrom? (16 * high + d) numeral
    | none => none

/-- The number that a numeral stands for; none if it is empty or has another character. -/
def value? : List Char → Option Nat
  | [] => none
  | c :: numeral => valueFrom? 0 (c :: numeral)

/-- The digit for a value below sixteen. -/
def digit (letters : Letters) (d : Nat) : Char :=
  if d < 10 then Char.ofNat ('0'.toNat + d)
  else
    match letters with
    | .lower => Char.ofNat ('a'.toNat + (d - 10))
    | .upper => Char.ofNat ('A'.toNat + (d - 10))

/-- The shortest numeral of a number. -/
def digits (letters : Letters) (n : Nat) : List Char :=
  if n < 16 then [digit letters n] else digits letters (n / 16) ++ [digit letters (n % 16)]
termination_by n

/-- The numeral of a number with zeros in front up to a least width. -/
def padded (letters : Letters) (width n : Nat) : List Char :=
  (digits letters n).leftpad width '0'

/-! ## Reading what was written -/

theorem digitValue?_digit (letters : Letters) {d : Nat} (hd : d < 16) :
    digitValue? (digit letters d) = some d := by
  have table : ∀ d ∈ List.range 16, digitValue? (digit .lower d) = some d ∧
      digitValue? (digit .upper d) = some d := by decide
  cases letters
  · exact (table d (List.mem_range.2 hd)).1
  · exact (table d (List.mem_range.2 hd)).2

theorem digits_ne_nil (letters : Letters) (n : Nat) : digits letters n ≠ [] := by
  unfold digits
  split <;> simp

/-- A numeral with a last digit behind it is worth sixteen times as much and that digit. -/
theorem valueFrom?_append_singleton (high : Nat) (numeral : List Char) (c : Char) :
    valueFrom? high (numeral ++ [c]) =
      (valueFrom? high numeral).bind fun n => (digitValue? c).map fun d => 16 * n + d := by
  induction numeral generalizing high with
  | nil => cases h : digitValue? c <;> simp [valueFrom?, h]
  | cons x numeral ih => cases h : digitValue? x <;> simp [valueFrom?, h, ih]

/-- Reading gives back the number that was written. -/
theorem valueFrom?_digits (letters : Letters) (n : Nat) :
    valueFrom? 0 (digits letters n) = some n := by
  induction n using Nat.strongRecOn with
  | _ n ih =>
    unfold digits
    split
    · next h => simp [valueFrom?, digitValue?_digit letters h]
    · next h =>
      rw [valueFrom?_append_singleton, ih (n / 16) (by omega),
        digitValue?_digit letters (Nat.mod_lt n (by decide))]
      simp only [Option.bind_some, Option.map_some, Option.some.injEq]
      omega

end CellWidth.Text.Hex
