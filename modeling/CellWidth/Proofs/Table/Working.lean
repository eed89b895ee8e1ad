import CellWidth.Proofs.Table.Merging

/-!
# Lists of ranges at work

A list of ranges that grows, is turned round and is replaced by its table along the way.

* `Step`, `Step.apply` : one change; `after steps` : the list that changes make of the empty one.
* `covers_after_iff` : whatever was done, the list covers what was put in.
* `ofRanges?_after` : so it does not matter when tables are made.
-/

namespace CellWidth.Table

/-- One change to a list of ranges. -/
inductive Step where
  /-- A range is put at the end. -/
  | push (r : CodeRange)
  /-- The list is turned round. -/
  | reverse
  /-- The table of the list takes its place, if it makes one. -/
  | tabulate (width : Width)
deriving DecidableEq, Repr

namespace Step

/-- The list after a change. -/
def apply (ranges : List CodeRange) : Step → List CodeRange
  | push r => ranges ++ [r]
  | reverse => ranges.reverse
  | tabulate width =>
    match ofRanges? width ranges with
    | .ok table => table
    | .error _ => ranges

/-- The ranges that a change puts in. -/
def pushed : Step → List CodeRange
  | push r => [r]
  | reverse => []
  | tabulate _ => []

end Step

/-- The list that changes make of the empty one, in order. -/
def after (steps : List Step) : List CodeRange :=
  steps.foldl Step.apply []

/-- All ranges that were put in, in order. -/
def allPushed (steps : List Step) : List CodeRange :=
  steps.flatMap Step.pushed

variable {steps : List Step} {ranges : List CodeRange} {c : Nat}

/-- A change adds to the coverage what it puts in, and takes nothing from it. -/
theorem Step.covers_apply_iff (step : Step) :
    Covers (step.apply ranges) c ↔ Covers (ranges ++ step.pushed) c := by
  cases step with
  | push r => rfl
  | reverse => simp only [apply, pushed, List.append_nil, Covers, List.mem_reverse]
  | tabulate width =>
    simp only [apply, pushed, List.append_nil]
    split
    · next table h => rw [← (ofRanges?_eq_ok_iff.1 h).2, covers_coalesce]
    · rfl

/-- Whatever was done to it, the list covers what was put in. -/
theorem covers_after_iff : Covers (after steps) c ↔ Covers (allPushed steps) c := by
  -- on the changes, last one first
  induction steps using List.reverseRecOn with
  | nil => rfl
  | append_singleton steps step ih =>
    have hafter : after (steps ++ [step]) = step.apply (after steps) := by
      rw [after, List.foldl_append]
      rfl
    have hpushed : allPushed (steps ++ [step]) = allPushed steps ++ step.pushed := by
      rw [allPushed, List.flatMap_append, List.flatMap_singleton]
      rfl
    rw [hafter, hpushed, step.covers_apply_iff, covers_append, covers_append, ih]

theorem allPushed_eq_nil_iff : allPushed steps = [] ↔ ∀ r, Step.push r ∉ steps := by
  rw [allPushed, List.flatMap_eq_nil_iff]
  constructor
  · intro h r hmem
    exact List.cons_ne_nil _ _ (h (.push r) hmem)
  · intro h step hmem
    cases step with
    | push r => exact absurd hmem (h r)
    | reverse => rfl
    | tabulate width => rfl

/-- **Tables at any time.** Ranges that are put in one by one, with the list turned round and
replaced by its table in between, make in the end the table of all of them; and there is none only
if none was put in. -/
theorem ofRanges?_after (width : Width) (steps : List Step) :
    ofRanges? width (after steps) = ofRanges? width (allPushed steps) ∧
    ∀ fault, ofRanges? width (after steps) = .error fault ↔
      (∀ r, Step.push r ∉ steps) ∧ fault = .emptyTable width := by
  have hsame : ofRanges? width (after steps) = ofRanges? width (allPushed steps) :=
    ofRanges?_congr fun _ => covers_after_iff
  refine ⟨hsame, fun fault => ?_⟩
  rw [hsame, ofRanges?_eq_error_iff, allPushed_eq_nil_iff]

end CellWidth.Table
