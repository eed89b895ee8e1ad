import Mathlib.Data.List.DropRight
import Mathlib.Data.List.TakeWhile
import CellWidth.Text.Blank

/-!
# Trimmed texts

* `Trimmed text` : no blank stands at either end.
* `trimmed_trim`, `trim_of_trimmed` : trimming gives a trimmed text and leaves one as it is, so
  that trimming twice is trimming once (`trim_trim`).
* `TrimsTo text inner` : blanks around a trimmed text. There is one such text, and `trim` finds it
  (`trimsTo_iff`). It begins with the first sign that is no blank (`head?_trim`).
* `trim_append_cons` : around a sign that is no blank each side is trimmed at its own end.
-/

namespace CellWidth.Text

variable {text : List Char}

/-- The text neither starts nor ends with a blank. -/
def Trimmed (text : List Char) : Prop :=
  (∀ c, text.head? = some c → isBlank c = false) ∧ (∀ c, text.getLast? = some c → isBlank c = false)

/-- A text without blanks is trimmed. -/
theorem trimmed_of_forall (h : ∀ c ∈ text, isBlank c = false) : Trimmed text :=
  ⟨fun c hc => h c (List.mem_of_mem_head? hc), fun c hc => h c (List.mem_of_getLast? hc)⟩

theorem trimStart_of_head {c : Char} {rest : List Char} (hc : isBlank c = false) :
    trimStart (c :: rest) = c :: rest := by
  simp [trimStart, hc]

theorem trimEnd_of_getLast {c : Char} {front : List Char} (hc : isBlank c = false) :
    trimEnd (front ++ [c]) = front ++ [c] := by
  simp [trimEnd, hc]

/-- What is trimmed at its end begins as before. -/
theorem trimEnd_isPrefix (text : List Char) : trimEnd text <+: text :=
  List.rdropWhile_prefix isBlank text

/-- Trimming adds nothing. -/
theorem trim_subset (text : List Char) : trim text ⊆ text :=
  List.Subset.trans (trimEnd_isPrefix _).subset (List.dropWhile_suffix _).subset

/-- Blanks put in front of a text are trimmed away. -/
theorem trim_append_of_forall_blank {blanks : List Char} (h : ∀ c ∈ blanks, isBlank c = true) :
    trim (blanks ++ text) = trim text := by
  induction blanks with
  | nil => rfl
  | cons c blanks ih =>
    rw [List.cons_append, trim_cons_of_blank (h c List.mem_cons_self),
      ih fun e he => h e (List.mem_cons_of_mem _ he)]

/-- A trimmed text is left as it is. -/
theorem trim_of_trimmed (h : Trimmed text) : trim text = text := by
  rcases h with ⟨hhead, hlast⟩
  cases text with
  | nil => rfl
  | cons c rest =>
    rw [trim, trimStart_of_head (hhead c rfl)]
    rcases (List.eq_nil_or_concat (c :: rest)).resolve_left (List.cons_ne_nil _ _) with
      ⟨front, d, hd⟩
    rw [List.concat_eq_append] at hd
    rw [hd] at hlast ⊢
    exact trimEnd_of_getLast (hlast d (by simp))

/-- Trimming leaves no blank at either end. -/
theorem trimmed_trim (text : List Char) : Trimmed (trim text) := by
  constructor
  · intro c hc
    -- the end is trimmed last, but what it leaves begins as before
    rcases trimEnd_isPrefix (trimStart text) with ⟨tail, htail⟩
    rcases List.head?_eq_some_iff.1 hc with ⟨rest, hrest⟩
    rw [trim] at hrest
    rw [hrest, List.cons_append] at htail
    exact trimStart_head_not_blank htail.symm
  · intro c hc
    have hne : trim text ≠ [] := by
      intro hnil
      rw [hnil] at hc
      cases hc
    rw [List.getLast?_eq_some_getLast hne, Option.some.injEq] at hc
    have hlast := List.rdropWhile_last_not isBlank (trimStart text) hne
    rw [← hc]
    exact Bool.eq_false_iff.2 hlast

/-- Trimming twice is trimming once. -/
theorem trim_trim (text : List Char) : trim (trim text) = trim text :=
  trim_of_trimmed (trimmed_trim text)

/-! ## What is trimmed away -/

variable {inner : List Char}

/-- The text is a trimmed one with blanks in front of it and behind it. -/
structure TrimsTo (text inner : List Char) : Prop where
  exists_blanks : ∃ front back, text = front ++ inner ++ back ∧
    (∀ c ∈ front, isBlank c = true) ∧ ∀ c ∈ back, isBlank c = true
  trimmed : Trimmed inner

/-- Blanks put behind a text are trimmed away. -/
theorem trim_append_of_blanks {blanks : List Char} (h : ∀ c ∈ blanks, isBlank c = true) :
    trim (text ++ blanks) = trim text := by
  induction blanks using List.reverseRecOn with
  | nil => rw [List.append_nil]
  | append_singleton blanks c ih =>
    rw [← List.append_assoc, trim_append_of_blank (h c (by simp)),
      ih fun e he => h e (List.mem_append_left _ he)]

/-- Blanks are all that is trimmed away at the end. -/
theorem exists_eq_trimEnd_append (text : List Char) :
    ∃ blanks, text = trimEnd text ++ blanks ∧ ∀ c ∈ blanks, isBlank c = true := by
  refine ⟨(text.reverse.takeWhile isBlank).reverse, ?_, fun c hc => ?_⟩
  · rw [trimEnd, ← List.reverse_append, List.takeWhile_append_dropWhile, List.reverse_reverse]
  · exact List.mem_takeWhile_imp (List.mem_reverse.1 hc)

theorem trimsTo_trim (text : List Char) : TrimsTo text (trim text) := by
  obtain ⟨back, hend, hback⟩ := exists_eq_trimEnd_append (trimStart text)
  refine ⟨⟨text.takeWhile isBlank, back, ?_, fun c hc => List.mem_takeWhile_imp hc, hback⟩,
    trimmed_trim text⟩
  rw [List.append_assoc, trim, ← hend, trimStart, List.takeWhile_append_dropWhile]

/-- Trimming finds the trimmed text between the blanks, and there is no other one. -/
theorem trimsTo_iff : TrimsTo text inner ↔ trim text = inner := by
  constructor
  · rintro ⟨⟨front, back, rfl, hfront, hback⟩, htrimmed⟩
    rw [trim_append_of_blanks hback, trim_append_of_forall_blank hfront, trim_of_trimmed htrimmed]
  · rintro rfl
    exact trimsTo_trim text

theorem TrimsTo.isInfix (h : TrimsTo text inner) : inner <:+: text := by
  obtain ⟨front, back, rfl, -, -⟩ := h.exists_blanks
  exact ⟨front, back, rfl⟩

/-- No sign of some blanks is the first one that is no blank. -/
theorem find?_of_blanks {blanks : List Char} (h : ∀ c ∈ blanks, isBlank c = true) :
    (blanks.find? fun c => !isBlank c) = none :=
  List.find?_eq_none.2 fun c hc => by simp [h c hc]

/-- What is trimmed at its start begins with the first sign that is no blank. -/
theorem head?_trimStart (text : List Char) :
    (trimStart text).head? = text.find? fun c => !isBlank c := by
  simp [trimStart, List.find?_eq_head?_dropWhile_not]

/-- A trimmed text begins with the first sign that is no blank. -/
theorem head?_trim (text : List Char) : (trim text).head? = text.find? fun c => !isBlank c := by
  obtain ⟨⟨front, back, htext, hfront, hback⟩, htrimmed⟩ := trimsTo_trim text
  conv => rhs; rw [htext]
  rw [List.find?_append, List.find?_append, find?_of_blanks hfront, find?_of_blanks hback,
    Option.none_or, Option.or_none]
  cases hinner : trim text with
  | nil => rfl
  | cons c rest =>
    have hc : isBlank c = false := htrimmed.1 c (by rw [hinner]; rfl)
    rw [List.find?_cons_of_pos (by rw [hc]; rfl), List.head?_cons]

/-- Only blanks are trimmed to nothing. -/
theorem trim_eq_nil_iff : trim text = [] ↔ ∀ c ∈ text, isBlank c = true := by
  constructor
  · intro h
    obtain ⟨front, back, htext, hfront, hback⟩ := (trimsTo_iff.2 h).exists_blanks
    rw [List.append_nil] at htext
    intro c hc
    rw [htext] at hc
    exact (List.mem_append.1 hc).elim (hfront c) (hback c)
  · intro h
    have hblank : trim ([] ++ text) = trim [] := trim_append_of_blanks h
    rwa [List.nil_append] at hblank

/-! ## Around a sign -/

theorem dropWhile_append_cons {c : Char} (hc : isBlank c = false) (front back : List Char) :
    (front ++ c :: back).dropWhile isBlank = front.dropWhile isBlank ++ c :: back := by
  rw [List.dropWhile_append]
  split
  · next h => rw [List.isEmpty_iff.1 h, List.dropWhile_cons_of_neg (by simp [hc]), List.nil_append]
  · rfl

theorem trimEnd_append_cons {c : Char} (hc : isBlank c = false) (front back : List Char) :
    trimEnd (front ++ c :: back) = front ++ c :: trimEnd back := by
  have hreverse : (front ++ c :: back).reverse = back.reverse ++ c :: front.reverse := by simp
  rw [trimEnd, hreverse, dropWhile_append_cons hc, trimEnd]
  simp

/-- What stands before a sign that is no blank is trimmed at its start only, and what stands behind
it at its end only. -/
theorem trim_append_cons {c : Char} (hc : isBlank c = false) (front back : List Char) :
    trim (front ++ c :: back) = trimStart front ++ c :: trimEnd back := by
  rw [trim, trimStart, dropWhile_append_cons hc, trimEnd_append_cons hc, trimStart]

theorem trim_trimStart (text : List Char) : trim (trimStart text) = trim text := by
  have hidem : trimStart (trimStart text) = trimStart text := List.dropWhile_idempotent isBlank text
  rw [trim, trim, hidem]

theorem trim_trimEnd (text : List Char) : trim (trimEnd text) = trim text := by
  obtain ⟨blanks, htext, hblanks⟩ := exists_eq_trimEnd_append text
  conv => rhs; rw [htext]
  exact (trim_append_of_blanks hblanks).symm

end CellWidth.Text
