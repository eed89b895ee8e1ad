import Mathlib
import CellWidth.Proofs.Record.Grammar

/-!
# Layout does not count

Blanks may stand at the ends of a line, around its first separator, and around the first `..` of its
code field; a comment may stand behind what is read. None of this changes what the reader says, be
it a record or a fault.

* `Spaced line line'` : blanks are put into the line at one of these places.
* `ofLine?_congr` : a line is read by its first sign that is no blank, and by its fields.
* `ofFields?_trim_separated` : the fields are what stands around the first separator, trimmed.
* `ofLine?_ignores_layout` : blanks at all these places and comments, in one statement.
-/

namespace CellWidth.Record

open Text (trim trimStart trimEnd isBlank CutAt)

variable {line line' codes rest field field' first last before behind front back blanks : List Char}

/-- Nothing but blanks. -/
def Blanks (text : List Char) : Prop :=
  ∀ c ∈ text, isBlank c = true

/-- Blanks are put into a line where they do not count. They may be none. -/
inductive Spaced (line : List Char) : List Char → Prop
  /-- At the ends of the line. -/
  | ends {front back : List Char} : Blanks front → Blanks back →
      Spaced line (front ++ line ++ back)
  /-- Right before the first separator and right behind it. -/
  | separator {codes rest front back : List Char} : line = codes ++ ';' :: rest → ';' ∉ codes →
      Blanks front → Blanks back → Spaced line (codes ++ front ++ ';' :: (back ++ rest))
  /-- Right before the first `..` and right behind it, if no separator stands in front of it. -/
  | dots {before behind front back : List Char} : CutAt ['.', '.'] line before behind →
      ';' ∉ before → Blanks front → Blanks back →
      Spaced line (before ++ front ++ ['.', '.'] ++ (back ++ behind))

theorem Blanks.not_mem {c : Char} (h : Blanks blanks) (hc : isBlank c = false) : c ∉ blanks := by
  intro hmem
  rw [h c hmem] at hc
  cases hc

/-! ## What is read of a line -/

/-- A sign that is no blank hides what stands behind it; blanks in front of it do not. -/
theorem head?_trim_spaced {c : Char} (hc : isBlank c = false) (hblanks : Blanks blanks)
    (before behind behind' : List Char) :
    (trim (before ++ blanks ++ c :: behind')).head? = (trim (before ++ c :: behind)).head? := by
  have hstop (text : List Char) : ((c :: text).find? fun e => !isBlank e) = some c :=
    List.find?_cons_of_pos (by rw [hc]; rfl)
  rw [Text.head?_trim, Text.head?_trim, List.find?_append, List.find?_append, List.find?_append,
    Text.find?_of_blanks hblanks, Option.or_none, hstop, hstop]

theorem skipped_iff : Skipped line ↔ ∀ c, (trim line).head? = some c → c = '#' := by
  simp only [Skipped, Text.trimsTo_iff, exists_eq_left']
  cases trim line <;> simp

/-- A line is read by its first sign that is no blank, and by its fields. -/
theorem ofLine?_congr (hfirst : (trim line).head? = (trim line').head?)
    (hfields : ofFields? (trim line) = ofFields? (trim line')) : ofLine? line = ofLine? line' := by
  unfold ofLine?
  cases hline : trim line <;> cases hline' : trim line' <;> simp_all

/-! ## The label -/

theorem labelOf_append_of_blanks (h : Blanks blanks) : labelOf (rest ++ blanks) = labelOf rest := by
  rw [labelOf, labelOf, List.takeWhile_append]
  split
  · next hall =>
    have hrest : rest.takeWhile (· ≠ '#') = rest :=
      (List.takeWhile_prefix _).eq_of_length hall
    have hblanks : ∀ c ∈ blanks.takeWhile (· ≠ '#'), isBlank c = true := fun c hc =>
      h c ((List.takeWhile_prefix _).subset hc)
    rw [Text.trim_append_of_blanks hblanks, hrest]
  · rfl

theorem labelOf_blanks_append (h : Blanks blanks) : labelOf (blanks ++ rest) = labelOf rest := by
  have hall : ∀ c ∈ blanks, decide (c ≠ '#') = true := fun c hc =>
    decide_eq_true fun heq => h.not_mem (by decide) (heq ▸ hc)
  rw [labelOf, labelOf, List.takeWhile_append_of_pos hall, Text.trim_append_of_forall_blank h]

theorem labelOf_append_comment (comment : List Char) :
    labelOf (rest ++ '#' :: comment) = labelOf rest := by
  rw [labelOf, labelOf, List.takeWhile_append]
  split
  · next hall =>
    rw [List.takeWhile_cons_of_neg (by simp), List.append_nil,
      (List.takeWhile_prefix _).eq_of_length hall]
  · rfl

/-! ## The fields -/

/-- What stands in front of the first separator is trimmed and read; what stands behind it gives the
label, whether or not the line has been trimmed. -/
theorem ofFields?_trim_separated (h : ';' ∉ codes) :
    ofFields? (trim (codes ++ ';' :: rest)) =
      (range? (trim codes)).map (Record.mk · (labelOf rest)) := by
  have hcodes : ';' ∉ trimStart codes := fun hmem => h ((List.dropWhile_suffix _).subset hmem)
  have hlabel : labelOf (trimEnd rest) = labelOf rest := by
    obtain ⟨blanks, hrest, hblanks⟩ := Text.exists_eq_trimEnd_append rest
    conv => rhs; rw [hrest]
    exact (labelOf_append_of_blanks hblanks).symm
  rw [Text.trim_append_cons (by decide), ofFields?_separated hcodes, Text.trim_trimStart, hlabel]

/-- A line with a separator is read field by field, unless it is a comment. -/
theorem ofLine?_separated (h : ';' ∉ codes)
    (hfirst : (codes.find? fun c => !isBlank c) ≠ some '#') :
    ofLine? (codes ++ ';' :: rest) =
      (range? (trim codes)).map fun range => some ⟨range, labelOf rest⟩ := by
  rcases skipped_or_dataLine (codes ++ ';' :: rest) with hskipped | ⟨body, hdata⟩
  · -- a skipped line begins with a `#`, and this one with another sign or the separator
    rw [skipped_iff, Text.head?_trim, List.find?_append,
      List.find?_cons_of_pos (by decide)] at hskipped
    cases hcodes : codes.find? fun c => !isBlank c with
    | none =>
      rw [hcodes] at hskipped
      exact absurd (hskipped ';' rfl) (by decide)
    | some c =>
      rw [hcodes] at hskipped hfirst
      exact absurd (congrArg some (hskipped c rfl)) hfirst
  · rw [hdata.ofLine?_eq, ← Text.trimsTo_iff.1 hdata.trims, ofFields?_trim_separated h]
    cases range? (trim codes) <;> rfl

/-- Two fields with the same bounds are read alike. -/
theorem Bounds.range?_congr (h : Bounds field first last) (h' : Bounds field' first last)
    (hne : field ≠ []) (hne' : field' ≠ []) : range? field = range? field' := by
  rw [range?, range?, if_neg hne, if_neg hne', h.bounds?_eq, h'.bounds?_eq]

/-- The bounds of a field are trimmed at both ends, whether or not the field has been trimmed. -/
theorem bounds_trim_of_cutAt (h : CutAt ['.', '.'] codes before behind) :
    Bounds (trim codes) (trim before) (trim behind) := by
  obtain ⟨rfl, hapart⟩ := Text.cutAt_doubled_iff.1 h
  have htrim : trim (before ++ ['.', '.'] ++ behind) =
      trimStart before ++ ['.', '.'] ++ trimEnd behind := by
    have hend := Text.trimEnd_append_cons (c := '.') (by decide) [] behind
    rw [List.append_assoc, List.cons_append, Text.trim_append_cons (by decide)]
    simpa using hend
  have hcut : CutAt ['.', '.'] (trim (before ++ ['.', '.'] ++ behind)) (trimStart before)
      (trimEnd behind) := by
    refine Text.cutAt_doubled_iff.2 ⟨htrim, List.IsChain.suffix hapart ?_⟩
    obtain ⟨cut, hsuffix⟩ := List.dropWhile_suffix (l := before) isBlank
    exact ⟨cut, by rw [← List.append_assoc, trimStart, hsuffix]⟩
  refine .pair hcut ?_ ?_
  · rw [Text.trimsTo_iff, Text.trim_trimStart]
  · rw [Text.trimsTo_iff, Text.trim_trimEnd]

/-- Blanks around the first `..` of a field change nothing. -/
theorem range?_trim_of_dots (h : CutAt ['.', '.'] codes before behind) (hfront : Blanks front)
    (hback : Blanks back) :
    range? (trim (before ++ front ++ ['.', '.'] ++ (back ++ behind))) = range? (trim codes) := by
  have hspaced := bounds_trim_of_cutAt (h.insert (hfront.not_mem (by decide)) (back ++ behind))
  rw [Text.trim_append_of_blanks hfront, Text.trim_append_of_forall_blank hback] at hspaced
  have hne {text : List Char} (hdot : '.' ∈ text) : trim text ≠ [] := by
    intro hnil
    have hblank := Text.trim_eq_nil_iff.1 hnil '.' hdot
    cases hblank
  refine hspaced.range?_congr (bounds_trim_of_cutAt h) (hne (by simp)) (hne ?_)
  rw [h.text_eq]
  simp

/-- The same for a whole line: the first `..` stands in the code field, unless there is no separator
at all. -/
theorem ofFields?_trim_of_dots (h : CutAt ['.', '.'] line before behind) (hbefore : ';' ∉ before)
    (hfront : Blanks front) (hback : Blanks back) :
    ofFields? (trim (before ++ front ++ ['.', '.'] ++ (back ++ behind))) =
      ofFields? (trim line) := by
  obtain ⟨rfl, hapart⟩ := Text.cutAt_doubled_iff.1 h
  have hfront' : ';' ∉ front := hfront.not_mem (by decide)
  have hback' : ';' ∉ back := hback.not_mem (by decide)
  by_cases hmem : ';' ∈ behind
  · obtain ⟨codes, rest, rfl, hcodes⟩ := List.eq_append_cons_of_mem hmem
    have hcut : CutAt ['.', '.'] (before ++ ['.', '.'] ++ codes) before codes :=
      Text.cutAt_doubled_iff.2 ⟨rfl, hapart⟩
    have hline : before ++ ['.', '.'] ++ (codes ++ ';' :: rest) =
        before ++ ['.', '.'] ++ codes ++ ';' :: rest := by simp
    have hspaced : before ++ front ++ ['.', '.'] ++ (back ++ (codes ++ ';' :: rest)) =
        before ++ front ++ ['.', '.'] ++ (back ++ codes) ++ ';' :: rest := by simp
    rw [hline, hspaced, ofFields?_trim_separated (by simp [hbefore, hfront', hback', hcodes]),
      ofFields?_trim_separated (by simp [hbefore, hcodes]), range?_trim_of_dots hcut hfront hback]
  · have hline : ';' ∉ before ++ ['.', '.'] ++ behind := by simp [hbefore, hmem]
    have hspaced : ';' ∉ before ++ front ++ ['.', '.'] ++ (back ++ behind) := by
      simp [hbefore, hfront', hback', hmem]
    rw [ofFields?_of_not_mem fun hin => hspaced (Text.trim_subset _ hin),
      ofFields?_of_not_mem fun hin => hline (Text.trim_subset _ hin)]

/-! ## Blanks -/

/-- Blanks that are put in change neither the first sign that is no blank nor the fields. -/
theorem Spaced.ofLine?_eq (h : Spaced line line') : ofLine? line' = ofLine? line := by
  cases h with
  | @ends front back hfront hback =>
    have htrim : trim (front ++ line ++ back) = trim line := by
      rw [Text.trim_append_of_blanks hback, Text.trim_append_of_forall_blank hfront]
    exact ofLine?_congr (by rw [htrim]) (by rw [htrim])
  | @separator codes rest front back hline hcodes hfront hback =>
    subst hline
    refine ofLine?_congr (head?_trim_spaced (by decide) hfront codes rest (back ++ rest)) ?_
    have hspaced : ';' ∉ codes ++ front := by
      rw [List.mem_append, not_or]
      exact ⟨hcodes, hfront.not_mem (by decide)⟩
    rw [ofFields?_trim_separated hspaced, ofFields?_trim_separated hcodes,
      Text.trim_append_of_blanks hfront, labelOf_blanks_append hback]
  | @dots before behind front back hcut hbefore hfront hback =>
    obtain rfl := hcut.text_eq
    refine ofLine?_congr ?_ (ofFields?_trim_of_dots hcut hbefore hfront hback)
    simpa using head?_trim_spaced (c := '.') (by decide) hfront before ('.' :: behind)
      ('.' :: (back ++ behind))

/-! ## Comments -/

/-- A comment changes nothing but for a line that lacks its separator. -/
theorem ofLine?_append_comment (comment : List Char) (h : ofLine? line ≠ .error .missingSeparator) :
    ofLine? (line ++ '#' :: comment) = ofLine? line := by
  rcases skipped_or_dataLine line with hskipped | ⟨body, hdata⟩
  · have hcomment : Skipped (line ++ '#' :: comment) := by
      rw [skipped_iff, Text.head?_trim] at hskipped ⊢
      have hstop : (('#' :: comment).find? fun c => !isBlank c) = some '#' :=
        List.find?_cons_of_pos (by decide)
      rw [List.find?_append, hstop]
      cases hfirst : line.find? fun c => !isBlank c with
      | none => simp
      | some c => simpa using hskipped c hfirst
    rw [hcomment.ofLine?_eq, hskipped.ofLine?_eq]
  · have hmem : ';' ∈ line := by
      by_contra hmem
      have hbody : ';' ∉ body := fun hin => hmem (hdata.trims.isInfix.subset hin)
      rw [hdata.ofLine?_eq, ofFields?_of_not_mem hbody] at h
      exact h rfl
    obtain ⟨codes, rest, rfl, hcodes⟩ := List.eq_append_cons_of_mem hmem
    rw [List.append_assoc, List.cons_append]
    refine ofLine?_congr ?_ ?_
    · have hnone : Blanks [] := List.forall_mem_nil _
      have hhead :=
        head?_trim_spaced (c := ';') (by decide) hnone codes rest (rest ++ '#' :: comment)
      rwa [List.append_nil] at hhead
    · rw [ofFields?_trim_separated hcodes, ofFields?_trim_separated hcodes, labelOf_append_comment]

/-- **Layout does not count.** What a line is read to, be it nothing, a record or a fault with all
that it quotes, stays the same if blanks are put in at the ends of the line, around its first
separator, or around its first `..` in front of that, any number of times. Nor does a comment at the
end change it, unless the separator is missing. -/
theorem ofLine?_ignores_layout :
    (∀ line line', Relation.ReflTransGen Spaced line line' → ofLine? line' = ofLine? line) ∧
    ∀ line comment, ofLine? line ≠ .error .missingSeparator →
      ofLine? (line ++ '#' :: comment) = ofLine? line := by
  refine ⟨fun line line' hsteps => ?_, fun line comment => ofLine?_append_comment comment⟩
  induction hsteps with
  | refl => rfl
  | tail _ hstep ih => rw [hstep.ofLine?_eq, ih]

/-- Blanks around the first two of three dots, around the separator and at the ends: the last bound
is quoted as before. A comment with separators and dots in it leaves reversed bounds reversed. -/
theorem ofLine?_ignores_layout_of_lines :
    Relation.ReflTransGen Spaced "0300...036F;Mn".toList "\t0300 .. .036F ; Mn\u3000".toList ∧
    ofLine? "\t0300 .. .036F ; Mn\u3000".toList = .error (.badCode ".036F") ∧
    ofLine? "36F..300;Mn".toList ≠ .error .missingSeparator ∧
    ofLine? ("36F..300;Mn".toList ++ '#' :: ";..#".toList) = .error (.reversed 0x36F 0x300) := by
  have hblank : Blanks [' '] := List.forall_mem_singleton.2 (by decide)
  have htab : Blanks ['\t'] := List.forall_mem_singleton.2 (by decide)
  have hwide : Blanks ['\u3000'] := List.forall_mem_singleton.2 (by decide)
  have hcut : CutAt ['.', '.'] "0300...036F;Mn".toList "0300".toList ".036F;Mn".toList :=
    Text.cut?_eq_some_iff.1 (by cbv)
  have hdots : Spaced "0300...036F;Mn".toList "0300 .. .036F;Mn".toList :=
    .dots hcut (by decide) hblank hblank
  have hseparator : Spaced "0300 .. .036F;Mn".toList "0300 .. .036F ; Mn".toList :=
    @Spaced.separator _ "0300 .. .036F".toList "Mn".toList _ _ rfl (by decide) hblank hblank
  have hends : Spaced "0300 .. .036F ; Mn".toList "\t0300 .. .036F ; Mn\u3000".toList :=
    .ends htab hwide
  have hsteps := ((Relation.ReflTransGen.single hdots).tail hseparator).tail hends
  have hreversed : ofLine? "36F..300;Mn".toList = .error (.reversed 0x36F 0x300) := by cbv
  have hseparated : ofLine? "36F..300;Mn".toList ≠ .error .missingSeparator := by
    rw [hreversed]
    simp
  rcases ofLine?_ignores_layout with ⟨hspaced, hcomment⟩
  refine ⟨hsteps, (hspaced _ _ hsteps).trans (by cbv), hseparated, ?_⟩
  rw [hcomment _ _ hseparated, hreversed]

/-- Without a separator, a comment may bring one. -/
example : ofLine? "0300".toList = .error .missingSeparator ∧
    ofLine? "0300#;".toList = .error (.badCode "0300#") := ⟨by cbv, by cbv⟩

end CellWidth.Record
