/-!
# Blanks

Unicode's property `White_Space`, and texts without the blanks at their ends.

* `isBlank c` : `c` has the property.
* `trim text` : the text without the blanks at either end. What is left neither starts nor ends
  with a blank (`trimStart_head_not_blank`), and each end is trimmed on its own
  (`trim_cons_of_blank`, `trim_append_of_blank`).
-/

namespace CellWidth.Text

/-- The code points with the property `White_Space`, as closed runs in ascending order. -/
def blankRuns : List (Nat × Nat) :=
  [(0x9, 0xD), (0x20, 0x20), (0x85, 0x85), (0xA0, 0xA0), (0x1680, 0x1680), (0x2000, 0x200A),
    (0x2028, 0x2029), (0x202F, 0x202F), (0x205F, 0x205F), (0x3000, 0x3000)]

/-- `c` has the property `White_Space`. -/
def isBlank (c : Char) : Bool :=
  blankRuns.any fun run => run.1 ≤ c.toNat && c.toNat ≤ run.2

/-- Twenty-five code points are blank. -/
example : (blankRuns.map fun run => run.2 + 1 - run.1).sum = 25 := by decide

/-! ## Trimming -/

/-- The text from its first character that is not a blank. -/
def trimStart (text : List Char) : List Char :=
  text.dropWhile isBlank

/-- The text up to its last character that is not a blank. -/
def trimEnd (text : List Char) : List Char :=
  (text.reverse.dropWhile isBlank).reverse

/-- The text without the blanks at either end. -/
def trim (text : List Char) : List Char :=
  trimEnd (trimStart text)

/-- A text trimmed at its start is empty or starts with no blank. -/
theorem trimStart_head_not_blank {text rest : List Char} {c : Char}
    (h : trimStart text = c :: rest) : isBlank c = false := by
  have := List.head?_dropWhile_not isBlank text
  rw [show text.dropWhile isBlank = c :: rest from h] at this
  simpa using this

/-- A blank put in front of a text is trimmed away. -/
theorem trim_cons_of_blank {c : Char} (hc : isBlank c = true) (text : List Char) :
    trim (c :: text) = trim text := by
  simp [trim, trimStart, hc]

/-- A blank put at the end of a text is trimmed away. -/
theorem trim_append_of_blank {c : Char} (hc : isBlank c = true) (text : List Char) :
    trim (text ++ [c]) = trim text := by
  unfold trim trimStart trimEnd
  rw [List.dropWhile_append]
  split
  · next h =>
    rw [List.isEmpty_iff.1 h, List.dropWhile_cons_of_pos hc]
    rfl
  · rw [List.reverse_append, List.reverse_singleton, List.singleton_append,
      List.dropWhile_cons_of_pos hc]

end CellWidth.Text
