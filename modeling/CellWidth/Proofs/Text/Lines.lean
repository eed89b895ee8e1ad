import Mathlib.Data.List.Basic
import CellWidth.Text.Lines

/-!
# Where the lines of a text stand

`lines` reads sign by sign. Here is what it finds, said without it:

* `LineAt text before line` : a line of the text and what stands in front of it.
* `lines_getElem?_eq_some_iff` : the line at a position is the one with as many newlines in front
  of it.
* `lines_append` : behind a newline the lines are those of what follows, so `LineAt.append` moves
  them back by what was put in front.
-/

namespace CellWidth.Text

variable {α : Type} [LineSigns α] {text before line first rest : List α}

/-- A line may begin behind this text: it is empty or ends in a newline. -/
def AtLineStart (before : List α) : Prop :=
  before = [] ∨ before.getLast? = some newline

/-- `line` is a line of the text, and `before` is all that stands in front of it. -/
inductive LineAt : (text before line : List α) → Prop
  /-- A newline ends the line. -/
  | ended {before line after : List α} : AtLineStart before → newline ∉ line →
      line.getLast? ≠ some carriageReturn →
      LineAt (before ++ (line ++ newline :: after)) before line
  /-- A carriage return and a newline end the line. -/
  | endedByPair {before line after : List α} : AtLineStart before → newline ∉ line →
      LineAt (before ++ (line ++ carriageReturn :: newline :: after)) before line
  /-- The text ends with the line. -/
  | unended {before line : List α} : AtLineStart before → newline ∉ line → line ≠ [] →
      LineAt (before ++ line) before line

theorem atLineStart_nil : AtLineStart ([] : List α) :=
  .inl rfl

theorem LineAt.atLineStart (h : LineAt text before line) : AtLineStart before := by
  cases h <;> assumption

/-- Behind a newline it only matters what follows it. -/
theorem atLineStart_append_newline {later : List α} :
    AtLineStart (first ++ newline :: later) ↔ AtLineStart later := by
  cases later with
  | nil => simp [AtLineStart]
  | cons a later => simp [AtLineStart, List.getLast?_append, List.getLast?_cons_cons]

/-- A line may begin behind two texts if it may behind each. -/
theorem AtLineStart.append {later : List α} (hfirst : AtLineStart first)
    (hlater : AtLineStart later) : AtLineStart (first ++ later) := by
  rcases hlater with rfl | hlast
  · rwa [List.append_nil]
  · exact .inr (by rw [List.getLast?_append, hlast, Option.some_or])

/-- A line stays one behind a text that ends in a newline. -/
theorem LineAt.append (hstart : AtLineStart first) (h : LineAt text before line) :
    LineAt (first ++ text) (first ++ before) line := by
  cases h with
  | ended hbefore hline hret =>
    simpa only [List.append_assoc] using LineAt.ended (hstart.append hbefore) hline hret
  | endedByPair hbefore hline =>
    simpa only [List.append_assoc] using LineAt.endedByPair (hstart.append hbefore) hline
  | unended hbefore hline hne =>
    simpa only [List.append_assoc] using LineAt.unended (hstart.append hbefore) hline hne

/-- Every text is free of newlines or has a first one. -/
theorem newline_induction {motive : List α → Prop} [DecidableEq α]
    (last : ∀ text, newline ∉ text → motive text)
    (cons : ∀ first rest, newline ∉ first → motive rest → motive (first ++ newline :: rest))
    (text : List α) : motive text := by
  -- by length, since what follows the first newline is shorter but not the tail of the text
  induction hsize : text.length using Nat.strongRecOn generalizing text with
  | _ size ih =>
  by_cases h : newline ∈ text
  · rcases List.eq_append_cons_of_mem h with ⟨first, rest, rfl, hfirst⟩
    have hshorter : rest.length < size := by
      rw [List.length_append, List.length_cons] at hsize
      omega
    exact cons first rest hfirst (ih rest.length hshorter rest rfl)
  · exact last text h

/-- A text has one first newline. -/
theorem first_newline_inj {other tail : List α} (hfirst : newline ∉ first)
    (hother : newline ∉ other) (h : first ++ newline :: rest = other ++ newline :: tail) :
    first = other ∧ rest = tail := by
  induction first generalizing other with
  | nil =>
    cases other with
    | nil => simpa using h
    | cons b other =>
      rcases List.cons_eq_cons.1 h with ⟨rfl, -⟩
      exact absurd List.mem_cons_self hother
  | cons a first ih =>
    cases other with
    | nil =>
      rcases List.cons_eq_cons.1 h with ⟨rfl, -⟩
      exact absurd List.mem_cons_self hfirst
    | cons b other =>
      rcases List.cons_eq_cons.1 h with ⟨rfl, htail⟩
      rcases ih (fun hmem => hfirst (List.mem_cons_of_mem _ hmem))
        (fun hmem => hother (List.mem_cons_of_mem _ hmem)) htail with ⟨rfl, rfl⟩
      exact ⟨rfl, rfl⟩

/-- What stands in front of a line that is not the first one begins with the first line. -/
theorem eq_append_of_append_eq {tail : List α} (hfirst : newline ∉ first)
    (hmem : newline ∈ before) (h : before ++ tail = first ++ newline :: rest) :
    ∃ later, before = first ++ newline :: later ∧ rest = later ++ tail := by
  rcases List.eq_append_cons_of_mem hmem with ⟨front, later, rfl, hfront⟩
  rw [List.append_assoc, List.cons_append] at h
  rcases first_newline_inj hfront hfirst h with ⟨rfl, rfl⟩
  exact ⟨later, rfl, rfl⟩

/-! ## Lines of a text without and with a first newline -/

/-- The only line of a text without newlines is the text. -/
theorem lineAt_iff_of_not_mem (h : newline ∉ text) :
    LineAt text before line ↔ before = [] ∧ line = text ∧ text ≠ [] := by
  constructor
  · intro hline
    have hbefore : before = [] := by
      rcases hline.atLineStart with hnil | hlast
      · exact hnil
      · -- a newline in front of the line would stand in the text
        have hmem : newline ∈ before := List.mem_of_getLast? hlast
        cases hline <;> exact absurd (List.mem_append_left _ hmem) h
    cases hline with
    | ended => simp at h
    | endedByPair => simp at h
    | unended _ _ hne =>
      subst hbefore
      exact ⟨rfl, rfl, hne⟩
  · intro honly
    rcases honly with ⟨rfl, rfl, hne⟩
    simpa using LineAt.unended atLineStart_nil h hne

/-- A line behind the first newline is a line of what follows it. -/
theorem LineAt.behind_first (hfirst : newline ∉ first)
    (h : LineAt (first ++ newline :: rest) before line) (hmem : newline ∈ before) :
    ∃ later, before = first ++ newline :: later ∧ LineAt rest later line := by
  generalize htext : first ++ newline :: rest = text at h
  cases h with
  | ended hstart hline hret =>
    rcases eq_append_of_append_eq hfirst hmem htext.symm with ⟨later, rfl, rfl⟩
    exact ⟨later, rfl, .ended (atLineStart_append_newline.1 hstart) hline hret⟩
  | endedByPair hstart hline =>
    rcases eq_append_of_append_eq hfirst hmem htext.symm with ⟨later, rfl, rfl⟩
    exact ⟨later, rfl, .endedByPair (atLineStart_append_newline.1 hstart) hline⟩
  | unended hstart hline hne =>
    rcases eq_append_of_append_eq hfirst hmem htext.symm with ⟨later, rfl, rfl⟩
    exact ⟨later, rfl, .unended (atLineStart_append_newline.1 hstart) hline hne⟩

variable [DecidableEq α]

theorem chomp_reverse_of_getLast?_ne (h : line.getLast? ≠ some carriageReturn) :
    chomp line.reverse = line := by
  rcases List.eq_nil_or_concat line with rfl | ⟨front, a, rfl⟩
  · rfl
  · have ha : a ≠ carriageReturn := by simpa using h
    simp [chomp, ha]

theorem chomp_reverse_append_carriageReturn (line : List α) :
    chomp (line ++ [carriageReturn]).reverse = line := by
  simp [chomp]

/-- The end of a line is a newline, or a pair whose carriage return is not part of the line. -/
theorem eq_chomp_reverse_iff :
    line = chomp first.reverse ↔
      (line.getLast? ≠ some carriageReturn ∧ first = line) ∨ first = line ++ [carriageReturn] := by
  constructor
  · rintro rfl
    by_cases hlast : first.getLast? = some carriageReturn
    · rcases List.getLast?_eq_some_iff.1 hlast with ⟨front, rfl⟩
      rw [chomp_reverse_append_carriageReturn]
      exact .inr rfl
    · rw [chomp_reverse_of_getLast?_ne hlast]
      exact .inl ⟨hlast, rfl⟩
  · intro hends
    rcases hends with ⟨hlast, rfl⟩ | rfl
    · exact (chomp_reverse_of_getLast?_ne hlast).symm
    · exact (chomp_reverse_append_carriageReturn line).symm

/-- The line that nothing stands in front of ends with the first newline. -/
theorem LineAt.eq_first (hfirst : newline ∉ first) (h : LineAt (first ++ newline :: rest) [] line) :
    line = chomp first.reverse := by
  generalize htext : first ++ newline :: rest = text at h
  refine eq_chomp_reverse_iff.2 ?_
  cases h with
  | ended _ hmem hret =>
    rw [List.nil_append] at htext
    rcases first_newline_inj hfirst hmem htext with ⟨rfl, -⟩
    exact .inl ⟨hret, rfl⟩
  | @endedByPair _ _ after _ hmem =>
    have hmem' : newline ∉ line ++ [carriageReturn] := by
      simpa [newline_ne_carriageReturn] using hmem
    have htext' : first ++ newline :: rest = line ++ [carriageReturn] ++ newline :: after := by
      simpa using htext
    exact .inr (first_newline_inj hfirst hmem' htext').1
  | unended _ hmem _ =>
    rw [List.nil_append] at htext
    subst htext
    simp at hmem

/-- A line of a text with a first newline is what stands before it or a line of what follows. -/
theorem lineAt_append_newline_iff (hfirst : newline ∉ first) :
    LineAt (first ++ newline :: rest) before line ↔
      (before = [] ∧ line = chomp first.reverse) ∨
        ∃ later, before = first ++ newline :: later ∧ LineAt rest later line := by
  constructor
  · intro hline
    -- the line is the first one, or a newline stands in front of it
    rcases hline.atLineStart with rfl | hlast
    · exact .inl ⟨rfl, hline.eq_first hfirst⟩
    · exact .inr (hline.behind_first hfirst (List.mem_of_getLast? hlast))
  · intro hcases
    rcases hcases with ⟨rfl, hline⟩ | ⟨later, rfl, hline⟩
    · rcases eq_chomp_reverse_iff.1 hline with ⟨hret, rfl⟩ | rfl
      · simpa using LineAt.ended atLineStart_nil hfirst hret
      · have hmem : newline ∉ line := fun h => hfirst (List.mem_append_left _ h)
        simpa using LineAt.endedByPair atLineStart_nil hmem
    · have hstart : AtLineStart (first ++ [newline]) :=
        atLineStart_append_newline.2 atLineStart_nil
      simpa using hline.append hstart

/-! ## What `lines` finds -/

theorem linesFrom_of_not_mem (h : newline ∉ text) (begun : List α) :
    linesFrom begun text = if begun = [] ∧ text = [] then [] else [begun.reverse ++ text] := by
  -- each sign goes from the text to what has been read of the line
  induction text generalizing begun with
  | nil => simp [linesFrom]
  | cons a text ih =>
    have ha : a ≠ newline := fun heq => h (heq ▸ List.mem_cons_self)
    have htext : newline ∉ text := fun hmem => h (List.mem_cons_of_mem _ hmem)
    simp [linesFrom, ha, ih htext]

theorem linesFrom_append_newline (h : newline ∉ first) (begun rest : List α) :
    linesFrom begun (first ++ newline :: rest) =
      chomp (first.reverse ++ begun) :: lines rest := by
  induction first generalizing begun with
  | nil => simp [linesFrom, lines]
  | cons a first ih =>
    have ha : a ≠ newline := fun heq => h (heq ▸ List.mem_cons_self)
    have hfirst : newline ∉ first := fun hmem => h (List.mem_cons_of_mem _ hmem)
    simp [linesFrom, ha, ih hfirst]

/-- A text without newlines is one line, unless it is empty. -/
theorem lines_of_not_mem (h : newline ∉ text) :
    lines text = if text = [] then [] else [text] := by
  simpa [lines] using linesFrom_of_not_mem h []

/-- A text begins with the line that its first newline ends. -/
theorem lines_append_newline (h : newline ∉ first) (rest : List α) :
    lines (first ++ newline :: rest) = chomp first.reverse :: lines rest := by
  rw [lines, linesFrom_append_newline h, List.append_nil]

/-- The first newline is one more than those behind it. -/
theorem count_append_newline (hfirst : newline ∉ first) (later : List α) :
    (first ++ newline :: later).count newline = later.count newline + 1 := by
  rw [List.count_append, List.count_eq_zero_of_not_mem hfirst, List.count_cons_self, Nat.zero_add]

/-- The line at a position is the one with as many newlines in front of it. -/
theorem lines_getElem?_eq_some_iff {i : Nat} :
    (lines text)[i]? = some line ↔ ∃ before, LineAt text before line ∧ before.count newline = i := by
  induction text using newline_induction generalizing i with
  | last text h =>
    simp only [lines_of_not_mem h, lineAt_iff_of_not_mem h]
    constructor
    · intro hline
      by_cases hnil : text = []
      · simp [hnil] at hline
      · rw [if_neg hnil] at hline
        rw [List.getElem?_singleton, Option.ite_none_right_eq_some, Option.some.injEq] at hline
        rcases hline with ⟨rfl, rfl⟩
        exact ⟨[], ⟨rfl, rfl, hnil⟩, rfl⟩
    · intro hat
      rcases hat with ⟨before, ⟨rfl, rfl, hne⟩, rfl⟩
      simp [hne]
  | cons first rest hfirst ih =>
    simp only [lines_append_newline hfirst, lineAt_append_newline_iff hfirst]
    -- the first newline is in front of every later line, so positions go up by one
    have hcount (later : List α) := count_append_newline hfirst later
    cases i with
    | zero =>
      rw [List.getElem?_cons_zero, Option.some.injEq]
      constructor
      · rintro rfl
        exact ⟨[], .inl ⟨rfl, rfl⟩, rfl⟩
      · intro hat
        rcases hat with ⟨before, ⟨rfl, rfl⟩ | ⟨later, rfl, -⟩, hzero⟩
        · rfl
        · rw [hcount] at hzero
          cases hzero
    | succ i =>
      rw [List.getElem?_cons_succ, ih]
      constructor
      · intro hat
        rcases hat with ⟨later, hline, rfl⟩
        exact ⟨_, .inr ⟨later, rfl, hline⟩, hcount later⟩
      · intro hat
        rcases hat with ⟨before, ⟨rfl, -⟩ | ⟨later, rfl, hline⟩, hsucc⟩
        · cases hsucc
        · rw [hcount] at hsucc
          exact ⟨later, hline, Nat.succ.inj hsucc⟩

theorem mem_lines_iff : line ∈ lines text ↔ ∃ before, LineAt text before line := by
  rw [List.mem_iff_getElem?]
  simp only [lines_getElem?_eq_some_iff]
  constructor
  · intro hmem
    rcases hmem with ⟨i, before, h, -⟩
    exact ⟨before, h⟩
  · intro hat
    rcases hat with ⟨before, h⟩
    exact ⟨_, before, h, rfl⟩

/-! ## Texts one after another -/

/-- Behind a text that ends in a newline the lines are those of what follows. -/
theorem lines_append (h : AtLineStart text) (rest : List α) :
    lines (text ++ rest) = lines text ++ lines rest := by
  induction text using newline_induction with
  | last text hmem =>
    rcases h with rfl | hlast
    · rfl
    · exact absurd (List.mem_of_getLast? hlast) hmem
  | cons first later hfirst ih =>
    rw [List.append_assoc, List.cons_append, lines_append_newline hfirst,
      lines_append_newline hfirst, ih (atLineStart_append_newline.1 h), List.cons_append]

/-- A text that ends in a newline has a line for each newline. -/
theorem count_newline_eq_length_lines (h : AtLineStart text) :
    text.count newline = (lines text).length := by
  induction text using newline_induction with
  | last text hmem =>
    rcases h with rfl | hlast
    · rfl
    · exact absurd (List.mem_of_getLast? hlast) hmem
  | cons first later hfirst ih =>
    rw [lines_append_newline hfirst, List.length_cons, ← ih (atLineStart_append_newline.1 h),
      count_append_newline hfirst]

end CellWidth.Text
