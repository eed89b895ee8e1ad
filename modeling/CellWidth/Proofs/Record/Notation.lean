import Mathlib
import CellWidth.Proofs.Record.Layout
import CellWidth.Proofs.Record.Refusal

/-!
# The notation of a range is a code field

A range is displayed as `U+0378..U+0379`. Without the marks `U+` this is a code field, and a line
that begins with it is read back to the range.

* `withoutMarks text` : the text without any `U+`.
* `bounds_withoutMarks_display` : the bounds of the field are the bounds of the range, padded.
* `ofLine?_display` : the range is read back, if it lies within the code points; otherwise the first
  bound that does not is refused. So no two ranges are displayed alike.
-/

namespace CellWidth.Record

open Text (trim isBlank TrimsTo trimmed_of_forall)
open Text.Hex (IsDigit denotes_padded padded)

variable {letters : Text.Hex.Letters} {width n : Nat} {c : Char} {front rest : List Char}
  {r : CodeRange}

theorem isBlank_of_isDigit (h : IsDigit c) : isBlank c = false := by
  have htable : Text.Hex.signs.all fun c => isBlank c = false := by decide
  exact of_decide_eq_true (List.all_eq_true.1 htable c (Text.Hex.isDigit_iff_mem_signs.1 h))

/-! ## The notation -/

/-- The text without any `U+`. -/
def withoutMarks : List Char → List Char
  | 'U' :: '+' :: text => withoutMarks text
  | c :: text => c :: withoutMarks text
  | [] => []

theorem withoutMarks_append (h : 'U' ∉ front) (text : List Char) :
    withoutMarks (front ++ text) = front ++ withoutMarks text := by
  induction front with
  | nil => rfl
  | cons c front ih =>
    have hc : c ≠ 'U' := (List.ne_of_not_mem_cons h).symm
    have hfront : 'U' ∉ front := List.not_mem_of_not_mem_cons h
    rw [List.cons_append, withoutMarks, ih hfront, List.cons_append]
    exact fun text hmark => absurd hmark hc

/-- A displayed range without its marks: one numeral, or two with `..` between them. -/
theorem withoutMarks_display (r : CodeRange) :
    withoutMarks r.display.toList =
      if r.start = r.stop then padded .upper 4 r.start
      else padded .upper 4 r.start ++ (['.', '.'] ++ padded .upper 4 r.stop) := by
  have hcode (code : Nat) (text : List Char) :
      withoutMarks ((CodeRange.displayCode code).toList ++ text) =
        padded .upper 4 code ++ withoutMarks text := by
    have hnumeral : 'U' ∉ padded .upper 4 code := Text.Hex.not_mem_padded (by decide)
    have hmark : (CodeRange.displayCode code).toList = 'U' :: '+' :: padded .upper 4 code := by
      simp [CodeRange.displayCode]
    rw [hmark]
    exact withoutMarks_append hnumeral text
  have hlast (code : Nat) :
      withoutMarks (CodeRange.displayCode code).toList = padded .upper 4 code := by
    have hend := hcode code []
    rwa [List.append_nil, withoutMarks, List.append_nil] at hend
  rw [CodeRange.display]
  split
  · exact hlast r.start
  · have hdots : 'U' ∉ ['.', '.'] := by decide
    rw [String.toList_append, String.toList_append, List.append_assoc, hcode]
    exact congrArg _ ((withoutMarks_append hdots _).trans (congrArg _ (hlast r.stop)))

theorem withoutMarks_display_ne_nil (r : CodeRange) : withoutMarks r.display.toList ≠ [] := by
  have hnumeral : padded .upper 4 r.start ≠ [] := Text.Hex.padded_ne_nil .upper 4 r.start
  rw [withoutMarks_display]
  split
  · exact hnumeral
  · exact List.append_ne_nil_of_left_ne_nil hnumeral _

theorem isDigit_or_dot_of_mem (h : c ∈ withoutMarks r.display.toList) : IsDigit c ∨ c = '.' := by
  rw [withoutMarks_display] at h
  split at h
  · exact .inl (Text.Hex.isDigit_of_mem_padded h)
  · rcases List.mem_append.1 h with hstart | hrest
    · exact .inl (Text.Hex.isDigit_of_mem_padded hstart)
    rcases List.mem_append.1 hrest with hdot | hstop
    · exact .inr (by simpa using hdot)
    · exact .inl (Text.Hex.isDigit_of_mem_padded hstop)

/-- Other signs do not stand in it, blanks among them. -/
theorem not_mem_withoutMarks_display (hdigit : ¬ IsDigit c) (hdot : c ≠ '.') :
    c ∉ withoutMarks r.display.toList := fun hmem =>
  (isDigit_or_dot_of_mem hmem).elim hdigit hdot

theorem isBlank_of_mem (h : c ∈ withoutMarks r.display.toList) : isBlank c = false := by
  rcases isDigit_or_dot_of_mem h with hdigit | rfl
  · exact isBlank_of_isDigit hdigit
  · decide

/-- The bounds of the field are those of the range. -/
theorem bounds_withoutMarks_display (r : CodeRange) :
    Bounds (withoutMarks r.display.toList) (padded .upper 4 r.start) (padded .upper 4 r.stop) := by
  have hdot (code : Nat) : '.' ∉ padded .upper 4 code := Text.Hex.not_mem_padded (by decide)
  have htrims (code : Nat) : TrimsTo (padded .upper 4 code) (padded .upper 4 code) :=
    Text.trimsTo_iff.2 (Text.trim_of_trimmed (trimmed_of_forall fun _ hc =>
      isBlank_of_isDigit (Text.Hex.isDigit_of_mem_padded hc)))
  rw [withoutMarks_display]
  split
  · next heq =>
    rw [← heq]
    exact .single fun hdots => hdot r.start (hdots.subset List.mem_cons_self)
  · exact .pair (Text.cut?_eq_some_iff.1 (Text.cut?_append_mark (hdot r.start))) (htrims r.start)
      (htrims r.stop)

/-- No two ranges are displayed alike. -/
theorem display_injective {r r' : CodeRange} (h : r.display = r'.display) : r = r' := by
  have hvalue := Text.Hex.padded_injective .upper 4
  have hbounds := bounds_withoutMarks_display r
  rw [h] at hbounds
  obtain ⟨hstart, hstop⟩ := hbounds.unique (bounds_withoutMarks_display r')
  exact CodeRange.eq_of_bounds (hvalue hstart) (hvalue hstop)

/-! ## Reading it back -/

/-- A line that begins with the field is read by it. -/
theorem ofLine?_withoutMarks_display (r : CodeRange) (rest : List Char) :
    ofLine? (withoutMarks r.display.toList ++ ';' :: rest) =
      (range? (withoutMarks r.display.toList)).map fun range => some ⟨range, labelOf rest⟩ := by
  have hseparator : ';' ∉ withoutMarks r.display.toList :=
    not_mem_withoutMarks_display (by decide) (by decide)
  have hcomment : ((withoutMarks r.display.toList).find? fun c => !isBlank c) ≠ some '#' :=
    fun hfirst => not_mem_withoutMarks_display (by decide) (by decide)
      (List.mem_of_find?_eq_some hfirst)
  rw [ofLine?_separated hseparator hcomment,
    Text.trim_of_trimmed (trimmed_of_forall fun _ hc => isBlank_of_mem hc)]

theorem namesCodepoint_padded (h : n ≤ lastCodepoint) : NamesCodepoint (padded letters width n) n :=
  ⟨denotes_padded letters width n, h⟩

theorem boundFault_padded (h : lastCodepoint < n) (hlimit : n < codeLimit) :
    BoundFault (padded letters width n) (.beyondUnicode n) :=
  .beyond (denotes_padded letters width n) h (Nat.le_sub_one_of_lt hlimit)

/-- **Reading undoes displaying.** A line that begins with a displayed range, without its marks, is
read to the range and the label behind it, if the range lies within the code points. Otherwise the
first bound beyond them is refused. No two ranges are displayed alike. -/
theorem ofLine?_display :
    (∀ (r : CodeRange) (rest : List Char), r.stop ≤ lastCodepoint →
      ofLine? (withoutMarks r.display.toList ++ ';' :: rest) =
        .ok (some ⟨r, .ofList (trim (rest.takeWhile (· ≠ '#')))⟩)) ∧
    (∀ (r : CodeRange) (rest : List Char), lastCodepoint < r.start →
      ofLine? (withoutMarks r.display.toList ++ ';' :: rest) = .error (.beyondUnicode r.start)) ∧
    (∀ (r : CodeRange) (rest : List Char), r.start ≤ lastCodepoint → lastCodepoint < r.stop →
      ofLine? (withoutMarks r.display.toList ++ ';' :: rest) = .error (.beyondUnicode r.stop)) ∧
    ∀ r r' : CodeRange, r.display = r'.display → r = r' := by
  refine ⟨fun r rest hstop => ?_, fun r rest hstart => ?_, fun r rest hstart hstop => ?_,
    fun r r' => display_injective⟩
  · have hstart : r.start ≤ lastCodepoint := Nat.le_trans r.start_le_stop hstop
    have hfield := (codeField_iff (bounds_withoutMarks_display r)).2
      ⟨namesCodepoint_padded hstart, namesCodepoint_padded hstop, r.start_le_stop⟩
    rw [ofLine?_withoutMarks_display, range?_eq_ok_iff.2 hfield]
    rfl
  · have hfault := FieldFault.first (bounds_withoutMarks_display r)
      (boundFault_padded hstart (Nat.lt_of_le_of_lt r.start_le_stop r.stop_lt_limit))
    rw [ofLine?_withoutMarks_display,
      (range?_eq_error_iff (withoutMarks_display_ne_nil r)).2 hfault]
    rfl
  · have hfault := FieldFault.last (bounds_withoutMarks_display r) (namesCodepoint_padded hstart)
      (boundFault_padded hstop r.stop_lt_limit)
    rw [ofLine?_withoutMarks_display,
      (range?_eq_error_iff (withoutMarks_display_ne_nil r)).2 hfault]
    rfl

/-- A single code value in front of a label with separators; bounds of five and of eight digits, of
which the last is refused; a range that lies beyond the code points as a whole. -/
theorem ofLine?_display_of_ranges :
    (0x3000 ≤ lastCodepoint ∧
      ofLine? (withoutMarks "U+3000".toList ++ ';' :: " F;W # IDEOGRAPHIC SPACE".toList) =
        .ok (some ⟨⟨0x3000, 0x3000, by decide, by decide⟩, "F;W"⟩)) ∧
    (0x1F300 ≤ lastCodepoint ∧ lastCodepoint < 0xFFFFFFFF ∧
      ofLine? (withoutMarks "U+1F300..U+FFFFFFFF".toList ++ ';' :: "W".toList) =
        .error (.beyondUnicode 0xFFFFFFFF)) ∧
    lastCodepoint < 0x110000 ∧
      ofLine? (withoutMarks "U+110000..U+FFFFFFFF".toList ++ ';' :: "W".toList) =
        .error (.beyondUnicode 0x110000) := by
  have hlow : 0x3000 ≤ lastCodepoint := by decide
  have hstart : 0x1F300 ≤ lastCodepoint := by decide
  have hstop : lastCodepoint < 0xFFFFFFFF := by decide
  have hbeyond : lastCodepoint < 0x110000 := by decide
  rcases ofLine?_display with ⟨hread, hfirst, hlast, -⟩
  refine ⟨⟨hlow, ?_⟩, ⟨hstart, hstop, ?_⟩, hbeyond, ?_⟩
  · have hline :=
      hread ⟨0x3000, 0x3000, by decide, by decide⟩ " F;W # IDEOGRAPHIC SPACE".toList hlow
    have hlabel : String.ofList (trim (" F;W # IDEOGRAPHIC SPACE".toList.takeWhile (· ≠ '#'))) =
        "F;W" := by cbv
    have hdisplay : (⟨0x3000, 0x3000, by decide, by decide⟩ : CodeRange).display = "U+3000" := by
      cbv
    rwa [hlabel, hdisplay] at hline
  · have hline := hlast ⟨0x1F300, 0xFFFFFFFF, by decide, by decide⟩ "W".toList hstart hstop
    have hdisplay : (⟨0x1F300, 0xFFFFFFFF, by decide, by decide⟩ : CodeRange).display =
        "U+1F300..U+FFFFFFFF" := by cbv
    rwa [hdisplay] at hline
  · have hline := hfirst ⟨0x110000, 0xFFFFFFFF, by decide, by decide⟩ "W".toList hbeyond
    have hdisplay : (⟨0x110000, 0xFFFFFFFF, by decide, by decide⟩ : CodeRange).display =
        "U+110000..U+FFFFFFFF" := by cbv
    rwa [hdisplay] at hline

end CellWidth.Record
