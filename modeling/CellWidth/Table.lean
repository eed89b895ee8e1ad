import CellWidth.Fault

/-!
# Tables

A table is a list of code ranges, searched by bisection. It is in *canonical form* when each entry
starts behind a gap after the one before it, so that no code value lies in two entries and no two
entries could be one.

* `Canonical ranges` : the form, for all pairs of entries.
* `coalesce ranges` : the canonical list that covers the same code values (`covers_coalesce`,
  `canonical_coalesce` in `Table.Lemmas`).
* `Table.ofRanges? width ranges` : the coalesced table; an empty one is refused, since it would
  break every search in it.
* `Table.check width ranges` : accepts the non-empty canonical lists (`Table.check_eq_ok_iff`) and
  names the first entry at which another list fails.
-/

namespace CellWidth

open CodeRange

/-- The code value lies in one of the ranges. -/
def Covers (ranges : List CodeRange) (c : Nat) : Prop :=
  ∃ r ∈ ranges, c ∈ r

/-- A gap of at least one code value lies between the ranges, the first one before it. -/
def Before (a b : CodeRange) : Prop :=
  a.stop + 1 < b.start

instance (a b : CodeRange) : Decidable (Before a b) :=
  inferInstanceAs (Decidable (_ < _))

/-- Every entry lies before all later ones, with a gap between. -/
def Canonical (ranges : List CodeRange) : Prop :=
  ranges.Pairwise Before

instance (ranges : List CodeRange) : Decidable (Canonical ranges) :=
  inferInstanceAs (Decidable (ranges.Pairwise Before))

/-! ## Coalescing -/

/-- The ranges in ascending order of their starts; ranges of one start keep their order. -/
def byStart (ranges : List CodeRange) : List CodeRange :=
  ranges.mergeSort fun a b => a.start ≤ b.start

/-- The current range takes in the next ones as long as they overlap or abut; the first one that
does not is the next current range. -/
def absorb (current : CodeRange) : List CodeRange → List CodeRange
  | [] => [current]
  | next :: rest =>
    match current.join? next with
    | some joined => absorb joined rest
    | none => current :: absorb next rest

/-- The canonical list that covers the same code values. -/
def coalesce (ranges : List CodeRange) : List CodeRange :=
  match byStart ranges with
  | [] => []
  | first :: rest => absorb first rest

/-- A range that starts no earlier and cannot be joined lies behind a gap. -/
theorem before_of_join?_eq_none {a b : CodeRange} (hstart : a.start ≤ b.start)
    (h : a.join? b = none) : Before a b := by
  have ha := a.start_le_stop
  have hb := b.start_le_stop
  unfold CodeRange.join? at h
  split at h
  · cases h
  · next hfar =>
    simp only [Overlaps, Abuts] at hfar
    unfold Before
    omega

/-- The scan keeps the coverage. -/
theorem covers_absorb (current : CodeRange) (rest : List CodeRange) (c : Nat) :
    Covers (absorb current rest) c ↔ Covers (current :: rest) c := by
  induction rest generalizing current with
  | nil => rfl
  | cons next rest ih =>
    unfold absorb
    split
    · next joined h =>
      rw [ih]
      simp [Covers, mem_join? h, or_assoc]
    · simp only [Covers, List.mem_cons, exists_eq_or_imp] at ih ⊢
      rw [ih]

namespace Table

/-- The table of a width: its ranges coalesced. -/
def ofRanges? (width : Width) (ranges : List CodeRange) : Except Fault (List CodeRange) :=
  if ranges = [] then .error (.emptyTable width) else .ok (coalesce ranges)

/-! ## Checking -/

/-- The code value right behind this one. The last one has none behind it and stands for itself,
so that nothing starts behind its successor. -/
def successor (code : Nat) : Nat :=
  min (code + 1) (codeLimit - 1)

/-- The position of the first entry that does not start behind the successor of the last code value
in the one before it. -/
def firstUnordered? : List CodeRange → Option Nat
  | a :: b :: rest =>
    if b.start ≤ successor a.stop then some 1 else (firstUnordered? (b :: rest)).map (· + 1)
  | _ => none

/-- Accepts the tables that a search may rely on. -/
def check (width : Width) (ranges : List CodeRange) : Except Fault Unit :=
  if ranges = [] then .error (.emptyTable width)
  else
    match firstUnordered? ranges with
    | some entry => .error (.unordered width entry)
    | none => .ok ()

end Table

end CellWidth
