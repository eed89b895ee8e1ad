import CellWidth.Text.Hex

/-!
# Code ranges

A *code range* is a closed, non-empty run of code values. Code values are the numbers that a
32-bit table entry holds; only the reader of data lines asks for Unicode's narrower bound.

* `c ∈ r` : the code value `c` lies in `r`.
* `a.Overlaps b` : they share a code value (`overlaps_iff`). `a.Abuts b` : `b` starts right after
  `a` stops. Nothing follows the last code value, so the end of the code values never abuts their
  beginning.
* `a.join? b` : the one range that covers both (`mem_join?`), if they overlap or abut in either
  order.
* `a.display` : the range in the notation `U+0378..U+0379`.
-/

namespace CellWidth

/-- Code values are the numbers below this one: what 32 bits hold. -/
def codeLimit : Nat := 0x100000000

/-- The last code point of Unicode. -/
def lastCodepoint : Nat := 0x10FFFF

/-- A closed, non-empty run of code values. -/
structure CodeRange where
  start : Nat
  stop : Nat
  start_le_stop : start ≤ stop
  stop_lt_limit : stop < codeLimit
deriving DecidableEq, Repr

namespace CodeRange

instance : Membership Nat CodeRange where
  mem r c := r.start ≤ c ∧ c ≤ r.stop

instance (c : Nat) (r : CodeRange) : Decidable (c ∈ r) :=
  inferInstanceAs (Decidable (_ ∧ _))

theorem mem_iff {c : Nat} {r : CodeRange} : c ∈ r ↔ r.start ≤ c ∧ c ≤ r.stop :=
  Iff.rfl

/-- A range is known by its bounds. -/
theorem eq_of_bounds {a b : CodeRange} (hstart : a.start = b.start) (hstop : a.stop = b.stop) :
    a = b := by
  cases a; cases b; simp_all

/-- The range between two bounds; none if they are reversed or no code values. -/
def ofBounds? (start stop : Nat) : Option CodeRange :=
  if h : start ≤ stop ∧ stop < codeLimit then some ⟨start, stop, h.1, h.2⟩ else none

theorem ofBounds?_eq_some_iff {start stop : Nat} {r : CodeRange} :
    ofBounds? start stop = some r ↔ r.start = start ∧ r.stop = stop := by
  unfold ofBounds?
  constructor
  · intro h
    split at h
    · cases h
      exact ⟨rfl, rfl⟩
    · cases h
  · rintro ⟨rfl, rfl⟩
    exact dif_pos ⟨r.start_le_stop, r.stop_lt_limit⟩

theorem ofBounds?_eq_none_iff {start stop : Nat} :
    ofBounds? start stop = none ↔ stop < start ∨ codeLimit ≤ stop := by
  unfold ofBounds?
  split
  · next h => simp only [reduceCtorEq, false_iff]; omega
  · next h => simp only [true_iff]; omega

/-- The range of a single code value. -/
def single? (code : Nat) : Option CodeRange :=
  ofBounds? code code

/-- How many code values the range holds. -/
def size (r : CodeRange) : Nat :=
  r.stop - r.start + 1

/-- How many code values the ranges hold, one that lies in several counted for each. -/
def totalSize (ranges : List CodeRange) : Nat :=
  ranges.foldr (fun r total => r.size + total) 0

/-! ## Two ranges -/

/-- The ranges share a code value. -/
def Overlaps (a b : CodeRange) : Prop :=
  a.start ≤ b.stop ∧ b.start ≤ a.stop

/-- The second range starts right after the first one stops. -/
def Abuts (a b : CodeRange) : Prop :=
  a.stop + 1 = b.start

instance (a b : CodeRange) : Decidable (a.Overlaps b) :=
  inferInstanceAs (Decidable (_ ∧ _))

instance (a b : CodeRange) : Decidable (a.Abuts b) :=
  inferInstanceAs (Decidable (_ = _))

/-- The least range that covers both. -/
def hull (a b : CodeRange) : CodeRange where
  start := min a.start b.start
  stop := max a.stop b.stop
  start_le_stop :=
    Nat.le_trans (Nat.min_le_left ..) (Nat.le_trans a.start_le_stop (Nat.le_max_left ..))
  stop_lt_limit := Nat.max_lt.2 ⟨a.stop_lt_limit, b.stop_lt_limit⟩

/-- The one range that covers both and nothing else, if there is no gap between them. -/
def join? (a b : CodeRange) : Option CodeRange :=
  if a.Overlaps b ∨ a.Abuts b ∨ b.Abuts a then some (a.hull b) else none

/-- Two ranges are not joined exactly if there is a gap between them. -/
theorem join?_eq_none_iff {a b : CodeRange} :
    a.join? b = none ↔ ¬ (a.Overlaps b ∨ a.Abuts b ∨ b.Abuts a) := by
  simp [join?]

theorem overlaps_iff {a b : CodeRange} : a.Overlaps b ↔ ∃ c, c ∈ a ∧ c ∈ b := by
  have ha := a.start_le_stop
  have hb := b.start_le_stop
  simp only [Overlaps, mem_iff]
  constructor
  · intro h
    exact ⟨max a.start b.start, by omega, by omega⟩
  · rintro ⟨c, h⟩
    omega

/-- A join covers what either range covers, and nothing else. -/
theorem mem_join? {a b r : CodeRange} (h : a.join? b = some r) (c : Nat) :
    c ∈ r ↔ c ∈ a ∨ c ∈ b := by
  have ha := a.start_le_stop
  have hb := b.start_le_stop
  unfold join? at h
  split at h
  · next hnear =>
    cases h
    simp only [Overlaps, Abuts] at hnear
    simp only [mem_iff, hull]
    omega
  · cases h

/-- Joining does not depend on the order of the two. -/
theorem join?_comm (a b : CodeRange) : a.join? b = b.join? a := by
  have hull_comm : a.hull b = b.hull a :=
    eq_of_bounds (Nat.min_comm ..) (Nat.max_comm ..)
  have near_comm : (a.Overlaps b ∨ a.Abuts b ∨ b.Abuts a) ↔
      (b.Overlaps a ∨ b.Abuts a ∨ a.Abuts b) := by
    simp only [Overlaps, Abuts]
    omega
  simp only [join?, hull_comm, near_comm]

/-! ## Order and notation -/

/-- Ranges are ordered by start, then by stop. -/
instance : Ord CodeRange where
  compare a b := (compare a.start b.start).then (compare a.stop b.stop)

/-- The ranges in ascending order. -/
def sorted (ranges : List CodeRange) : List CodeRange :=
  ranges.mergeSort fun a b => (compare a b).isLE

/-- A code value as `U+` and at least four upper-case digits. -/
def displayCode (code : Nat) : String :=
  "U+" ++ .ofList (Text.Hex.padded .upper 4 code)

/-- `U+0378..U+0379`, or `U+3000` for a single code value. -/
def display (r : CodeRange) : String :=
  if r.start = r.stop then displayCode r.start
  else displayCode r.start ++ ".." ++ displayCode r.stop

end CodeRange

end CellWidth
