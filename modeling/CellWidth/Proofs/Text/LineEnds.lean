import CellWidth.Text.Lines

/-!
# How lines end

* `Returned text text'` : some newlines of the text get a carriage return in front of them.
* `EndEdit text text'` : that, or a newline put behind a text without one, or a last newline taken
  away.
* `WithReturns ls ls'` : some lines get a carriage return at their end, and an empty last line may
  go.
* `withReturns_lines` : an edit of line ends does no more than this to the lines, in one of the two
  directions.
-/

namespace CellWidth.Text

variable {α : Type} [LineSigns α] {text text' : List α}

/-- Some newlines of the text get a carriage return in front of them, and all else stays. -/
inductive Returned : (text text' : List α) → Prop
  | nil : Returned [] []
  | keep {text text' : List α} (a : α) : Returned text text' → Returned (a :: text) (a :: text')
  | pair {text text' : List α} : Returned text text' →
      Returned (newline :: text) (carriageReturn :: newline :: text')

theorem Returned.refl (text : List α) : Returned text text := by
  induction text with
  | nil => exact .nil
  | cons a text ih => exact .keep a ih

/-- What stands in front stays. -/
theorem Returned.append_left (front : List α) (h : Returned text text') :
    Returned (front ++ text) (front ++ text') := by
  induction front with
  | nil => exact h
  | cons a front ih => exact .keep a ih

/-- One change to how the lines of a text end. -/
inductive EndEdit : (text text' : List α) → Prop
  /-- Some newlines become pairs of a carriage return and a newline. -/
  | returns {text text' : List α} : Returned text text' → EndEdit text text'
  /-- The last line is ended. -/
  | endLast {text : List α} : text.getLast? ≠ some newline → EndEdit text (text ++ [newline])
  /-- The last newline is taken away. -/
  | dropLast {text : List α} : EndEdit (text ++ [newline]) text

/-- Some lines get a carriage return at their end, and an empty last line may go. -/
inductive WithReturns : (ls ls' : List (List α)) → Prop
  | nil : WithReturns [] []
  | drop : WithReturns [[]] []
  | keep {ls ls' : List (List α)} (line : List α) : WithReturns ls ls' →
      WithReturns (line :: ls) (line :: ls')
  | add {ls ls' : List (List α)} (line : List α) : WithReturns ls ls' →
      WithReturns (line :: ls) ((line ++ [carriageReturn]) :: ls')

theorem withReturns_refl (ls : List (List α)) : WithReturns ls ls := by
  induction ls with
  | nil => exact .nil
  | cons line ls ih => exact .keep line ih

variable [DecidableEq α]

/-- A line that keeps its carriage return is one that gets it back. -/
theorem withReturns_chomp {ls ls' : List (List α)} (begun : List α) (h : WithReturns ls ls') :
    WithReturns (chomp begun :: ls) (begun.reverse :: ls') := by
  cases begun with
  | nil => exact .keep [] h
  | cons a begun =>
    by_cases ha : a = carriageReturn
    · rw [chomp, if_pos ha, ha, List.reverse_cons]
      exact .add begun.reverse h
    · rw [chomp, if_neg ha]
      exact .keep _ h

theorem linesFrom_newline (begun text : List α) :
    linesFrom begun (newline :: text) = chomp begun :: linesFrom [] text := by
  rw [linesFrom, if_pos rfl]

theorem linesFrom_pair (begun text : List α) :
    linesFrom begun (carriageReturn :: newline :: text) = begun.reverse :: linesFrom [] text := by
  rw [linesFrom, if_neg newline_ne_carriageReturn.symm, linesFrom_newline, chomp, if_pos rfl]

/-- A carriage return in front of a newline is at most one more at the end of the line. -/
theorem Returned.withReturns_linesFrom (h : Returned text text') (begun : List α) :
    WithReturns (linesFrom begun text) (linesFrom begun text') := by
  induction h generalizing begun with
  | nil => exact withReturns_refl _
  | keep a _ ih =>
    unfold linesFrom
    split
    · exact .keep _ (ih [])
    · exact ih (a :: begun)
  | pair _ ih =>
    rw [linesFrom_newline, linesFrom_pair]
    exact withReturns_chomp begun (ih [])

/-- Without its last newline a text has the same lines, but for a carriage return at the end of the
last one, or has lost an empty line. -/
theorem withReturns_linesFrom_append_newline (text begun : List α) :
    WithReturns (linesFrom begun (text ++ [newline])) (linesFrom begun text) := by
  induction text generalizing begun with
  | nil =>
    rw [List.nil_append, linesFrom_newline]
    cases begun with
    | nil => exact .drop
    | cons a begun => exact withReturns_chomp (a :: begun) .nil
  | cons a text ih =>
    rw [List.cons_append, linesFrom, linesFrom]
    split
    · exact .keep _ (ih [])
    · exact ih (a :: begun)

/-- An edit of line ends does no more than that to the lines, or takes it back. -/
theorem EndEdit.withReturns_lines (h : EndEdit text text') :
    WithReturns (lines text) (lines text') ∨ WithReturns (lines text') (lines text) := by
  cases h with
  | returns hreturned => exact .inl (hreturned.withReturns_linesFrom [])
  | endLast _ => exact .inr (withReturns_linesFrom_append_newline text [])
  | dropLast => exact .inl (withReturns_linesFrom_append_newline text' [])

end CellWidth.Text
