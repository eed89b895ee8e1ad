import Mathlib
import CellWidth.Record
import CellWidth.Proofs.Text.Cut
import CellWidth.Proofs.Text.Hex
import CellWidth.Proofs.Text.Trim

/-!
# The grammar of a data line

Which lines are read, and to which records, said without the reader.

* `Skipped line` : blank, or a comment. `DataLine line body` : any other line, without the blanks at
  its ends.
* `NamesCodepoint bound code` : a numeral of a code point. `CodeField field start stop` : one such
  numeral, or two with `..` between them.
* `LabelIn rest label` : what stands in front of the comment. `RecordLine line record` : all of it.
* `ofLine?_reads_grammar` : the reader skips the skipped lines, reads the record lines, and nothing
  else.
-/

namespace CellWidth.Record

open Text (trim cut? CutAt TrimsTo Trimmed trimsTo_iff)
open Text.Hex (Denotes)

variable {line body codes field first last rest bound label : List Char} {record : Record}
  {range : CodeRange} {start stop code : Nat}

/-! ## The grammar -/

/-- The line is blank or a comment. -/
def Skipped (line : List Char) : Prop :=
  ∃ body, TrimsTo line body ∧ (body = [] ∨ ∃ comment, body = '#' :: comment)

/-- The line is neither, and `body` is what stands between its blanks. -/
structure DataLine (line body : List Char) : Prop where
  trims : TrimsTo line body
  ne_nil : body ≠ []
  no_comment : ∀ comment, body ≠ '#' :: comment

/-- A hexadecimal numeral of a code point. -/
structure NamesCodepoint (bound : List Char) (code : Nat) : Prop where
  denotes : Denotes bound code
  le_last : code ≤ lastCodepoint

/-- What a trimmed code field says: one code point, or two in order, between which its first `..`
stands. -/
inductive CodeField (field : List Char) : Nat → Nat → Prop
  | one {code : Nat} : NamesCodepoint field code → CodeField field code code
  | two {before behind first last : List Char} {start stop : Nat} :
      CutAt ['.', '.'] field before behind → TrimsTo before first → TrimsTo behind last →
      NamesCodepoint first start → NamesCodepoint last stop → start ≤ stop →
      CodeField field start stop

/-- The label is what stands in front of the first `#`, if there is one, without the blanks at its
ends. -/
def LabelIn (rest label : List Char) : Prop :=
  ∃ front, (rest = front ∨ ∃ comment, rest = front ++ '#' :: comment) ∧ '#' ∉ front ∧
    TrimsTo front label

/-- The line is the record: a code field, the first `;`, and a label. -/
inductive RecordLine (line : List Char) (record : Record) : Prop
  | intro {body codes rest field : List Char} :
      DataLine line body → body = codes ++ ';' :: rest → ';' ∉ codes → TrimsTo codes field →
      CodeField field record.range.start record.range.stop → LabelIn rest record.label.toList →
      RecordLine line record

/-! ## Bounds -/

/-- The bounds of a trimmed code field as they stand in it: what stands around its first `..`, or
the field as both. -/
inductive Bounds (field : List Char) : List Char → List Char → Prop
  | single : ¬ ['.', '.'] <:+: field → Bounds field field field
  | pair {before behind first last : List Char} :
      CutAt ['.', '.'] field before behind → TrimsTo before first → TrimsTo behind last →
      Bounds field first last

theorem exists_bounds (field : List Char) : ∃ first last, Bounds field first last := by
  cases hcut : cut? ['.', '.'] field with
  | none => exact ⟨field, field, .single (Text.cut?_eq_none_iff.1 hcut)⟩
  | some parts =>
    have hat : CutAt ['.', '.'] field parts.1 parts.2 := Text.cut?_eq_some_iff.1 hcut
    exact ⟨trim parts.1, trim parts.2, .pair hat (Text.trimsTo_trim _) (Text.trimsTo_trim _)⟩

/-- The reader judges the first bound, then the last one. -/
theorem Bounds.bounds?_eq (h : Bounds field first last) :
    bounds? field = (do
      let start ← codepoint? first
      let stop ← codepoint? last
      return (start, stop)) := by
  cases h with
  | single hnone =>
    rw [bounds?, Text.cut?_eq_none_iff.2 hnone]
    cases codepoint? field <;> rfl
  | pair hcut hfirst hlast =>
    rw [bounds?, Text.cut?_eq_some_iff.2 hcut]
    simp only [trimsTo_iff.1 hfirst, trimsTo_iff.1 hlast]

theorem codepoint?_eq_ok_iff : codepoint? bound = .ok code ↔ NamesCodepoint bound code := by
  have hlimit : lastCodepoint < codeLimit := by decide
  unfold codepoint?
  constructor
  · intro h
    split at h
    · cases h
    · next n hn =>
      split at h
      · cases h
      split at h
      · cases h
      · next hle =>
        cases h
        exact ⟨Text.Hex.value?_eq_some_iff.1 hn, Nat.not_lt.1 hle⟩
  · rintro ⟨hdenotes, hle⟩
    rw [Text.Hex.value?_eq_some_iff.2 hdenotes]
    simp only
    rw [if_neg (by omega), if_neg (by omega)]

theorem Bounds.bounds?_eq_ok_iff (h : Bounds field first last) :
    bounds? field = .ok (start, stop) ↔ NamesCodepoint first start ∧ NamesCodepoint last stop := by
  rw [h.bounds?_eq, ← codepoint?_eq_ok_iff, ← codepoint?_eq_ok_iff]
  cases codepoint? first <;> cases codepoint? last <;>
    simp [bind, Except.bind, pure, Except.pure]

theorem NamesCodepoint.unique {code' : Nat} (h : NamesCodepoint bound code)
    (h' : NamesCodepoint bound code') : code = code' :=
  h.denotes.unique h'.denotes

/-- A numeral has no `..` in it, so that it is both bounds of its field. -/
theorem NamesCodepoint.bounds (h : NamesCodepoint bound code) : Bounds bound bound bound := by
  refine .single fun hdots => ?_
  have hdot : '.' ∈ bound := hdots.subset List.mem_cons_self
  exact h.denotes.not_mem rfl hdot

/-- A field has its bounds in one way only. -/
theorem Bounds.unique {first' last' : List Char} (h : Bounds field first last)
    (h' : Bounds field first' last') : first = first' ∧ last = last' := by
  have hdots {before behind : List Char} (hcut : CutAt ['.', '.'] field before behind) :
      ['.', '.'] <:+: field := ⟨before, behind, hcut.text_eq.symm⟩
  cases h with
  | single hnone =>
    cases h' with
    | single _ => exact ⟨rfl, rfl⟩
    | pair hcut' _ _ => exact absurd (hdots hcut') hnone
  | pair hcut hfirst hlast =>
    cases h' with
    | single hnone => exact absurd (hdots hcut) hnone
    | pair hcut' hfirst' hlast' =>
      have hparts := Text.cut?_eq_some_iff.2 hcut
      rw [Text.cut?_eq_some_iff.2 hcut'] at hparts
      cases hparts
      rw [← trimsTo_iff.1 hfirst, ← trimsTo_iff.1 hlast]
      exact ⟨trimsTo_iff.1 hfirst', trimsTo_iff.1 hlast'⟩

/-! ## The range of a field -/

/-- A code field says what its bounds name, if they are in order. -/
theorem codeField_iff (h : Bounds field first last) :
    CodeField field start stop ↔
      NamesCodepoint first start ∧ NamesCodepoint last stop ∧ start ≤ stop := by
  constructor
  · intro hfield
    cases hfield with
    | one hcode =>
      obtain ⟨rfl, rfl⟩ := h.unique hcode.bounds
      exact ⟨hcode, hcode, Nat.le_refl _⟩
    | two hcut hfirst hlast hstart hstop hle =>
      obtain ⟨rfl, rfl⟩ := h.unique (.pair hcut hfirst hlast)
      exact ⟨hstart, hstop, hle⟩
  · rintro ⟨hstart, hstop, hle⟩
    cases h with
    | single _ =>
      obtain rfl := hstart.unique hstop
      exact .one hstart
    | pair hcut hfirst hlast => exact .two hcut hfirst hlast hstart hstop hle

theorem CodeField.ne_nil (h : CodeField field start stop) : field ≠ [] := by
  cases h with
  | one hcode => exact hcode.denotes.ne_nil
  | two hcut _ _ _ _ _ => simp [hcut.text_eq]

/-- No code field reaches beyond the last code point. -/
theorem CodeField.stop_le_last (h : CodeField field start stop) : stop ≤ lastCodepoint := by
  cases h with
  | one hcode => exact hcode.le_last
  | two _ _ _ _ hstop _ => exact hstop.le_last

theorem range?_eq_ok_iff : range? field = .ok range ↔ CodeField field range.start range.stop := by
  obtain ⟨first, last, hbounds⟩ := exists_bounds field
  constructor
  · intro h
    unfold range? at h
    split at h
    · cases h
    split at h
    · cases h
    · next start stop hread =>
      split at h
      · next found hfound =>
        cases h
        obtain ⟨rfl, rfl⟩ := CodeRange.ofBounds?_eq_some_iff.1 hfound
        obtain ⟨hstart, hstop⟩ := hbounds.bounds?_eq_ok_iff.1 hread
        exact (codeField_iff hbounds).2 ⟨hstart, hstop, range.start_le_stop⟩
      · cases h
  · intro h
    obtain ⟨hstart, hstop, -⟩ := (codeField_iff hbounds).1 h
    have hread : bounds? field = .ok (range.start, range.stop) :=
      hbounds.bounds?_eq_ok_iff.2 ⟨hstart, hstop⟩
    have hfound : CodeRange.ofBounds? range.start range.stop = some range :=
      CodeRange.ofBounds?_eq_some_iff.2 ⟨rfl, rfl⟩
    rw [range?, if_neg h.ne_nil, hread]
    simp only [hfound]

/-! ## The label -/

theorem labelOf_eq_iff {text : String} : labelOf rest = text ↔ LabelIn rest text.toList := by
  have hlabel : labelOf rest = text ↔ trim (rest.takeWhile (· ≠ '#')) = text.toList := by
    rw [labelOf, ← String.toList_inj, String.toList_ofList]
  rw [hlabel]
  constructor
  · intro h
    obtain ⟨hshape, hmem⟩ := Text.takeWhile_ne_eq_iff.1 (rfl : rest.takeWhile (· ≠ '#') = _)
    exact ⟨_, hshape, hmem, trimsTo_iff.2 h⟩
  · rintro ⟨front, hshape, hmem, htrims⟩
    rw [Text.takeWhile_ne_eq_iff.2 ⟨hshape, hmem⟩, trimsTo_iff.1 htrims]

/-- A label holds no comment and has no blank at its ends. -/
theorem LabelIn.clean (h : LabelIn rest label) : '#' ∉ label ∧ Trimmed label := by
  obtain ⟨front, -, hmem, htrims⟩ := h
  exact ⟨fun hlabel => hmem (htrims.isInfix.subset hlabel), htrims.trimmed⟩

/-! ## The line -/

theorem ofFields?_of_not_mem (h : ';' ∉ body) : ofFields? body = .error .missingSeparator := by
  rw [ofFields?, Text.cut?_eq_none_of_not_mem h]

/-- In front of the first separator stands the range, and behind it the label. -/
theorem ofFields?_separated (h : ';' ∉ codes) :
    ofFields? (codes ++ ';' :: rest) = (range? (trim codes)).map (Record.mk · (labelOf rest)) := by
  rw [ofFields?, Text.cut?_append_sign h]
  simp only
  cases range? (trim codes) <;> rfl

theorem ofFields?_eq_ok_iff :
    ofFields? body = .ok record ↔
      ∃ codes rest, body = codes ++ ';' :: rest ∧ ';' ∉ codes ∧
        range? (trim codes) = .ok record.range ∧ labelOf rest = record.label := by
  constructor
  · intro h
    by_cases hmem : ';' ∈ body
    · obtain ⟨codes, rest, rfl, hcodes⟩ := List.eq_append_cons_of_mem hmem
      rw [ofFields?_separated hcodes] at h
      cases hrange : range? (trim codes) with
      | error fault =>
        rw [hrange] at h
        cases h
      | ok range =>
        rw [hrange] at h
        cases h
        exact ⟨codes, rest, rfl, hcodes, hrange, rfl⟩
    · rw [ofFields?_of_not_mem hmem] at h
      cases h
  · rintro ⟨codes, rest, rfl, hcodes, hrange, hlabel⟩
    rw [ofFields?_separated hcodes, hrange, hlabel]
    rfl

/-- Every line is skipped or has a body. -/
theorem skipped_or_dataLine (line : List Char) : Skipped line ∨ ∃ body, DataLine line body := by
  have htrims : TrimsTo line (trim line) := Text.trimsTo_trim line
  by_cases hskipped : trim line = [] ∨ ∃ comment, trim line = '#' :: comment
  · exact .inl ⟨_, htrims, hskipped⟩
  · rw [not_or, not_exists] at hskipped
    exact .inr ⟨_, htrims, hskipped.1, hskipped.2⟩

theorem Skipped.ofLine?_eq (h : Skipped line) : ofLine? line = .ok none := by
  obtain ⟨body, htrims, rfl | ⟨comment, rfl⟩⟩ := h
  · rw [ofLine?, trimsTo_iff.1 htrims]
  · rw [ofLine?, trimsTo_iff.1 htrims]
    rfl

theorem DataLine.ofLine?_eq (h : DataLine line body) :
    ofLine? line = (ofFields? body).map some := by
  rw [ofLine?, trimsTo_iff.1 h.trims]
  cases body with
  | nil => exact absurd rfl h.ne_nil
  | cons c rest =>
    have hc : c ≠ '#' := fun heq => h.no_comment rest (heq ▸ rfl)
    simp only [if_neg hc]

theorem DataLine.ofLine?_eq_ok_some_iff (h : DataLine line body) :
    ofLine? line = .ok (some record) ↔ ofFields? body = .ok record := by
  rw [h.ofLine?_eq]
  cases ofFields? body <;> simp [Except.map]

theorem ofLine?_eq_ok_none_iff : ofLine? line = .ok none ↔ Skipped line := by
  constructor
  · intro h
    rcases skipped_or_dataLine line with hskipped | ⟨body, hdata⟩
    · exact hskipped
    · rw [hdata.ofLine?_eq] at h
      cases hread : ofFields? body <;> simp [hread, Except.map] at h
  · exact Skipped.ofLine?_eq

theorem ofLine?_eq_ok_some_iff : ofLine? line = .ok (some record) ↔ RecordLine line record := by
  constructor
  · intro h
    rcases skipped_or_dataLine line with hskipped | ⟨body, hdata⟩
    · rw [hskipped.ofLine?_eq] at h
      cases h
    · obtain ⟨codes, rest, hbody, hmem, hrange, hlabel⟩ :=
        ofFields?_eq_ok_iff.1 (hdata.ofLine?_eq_ok_some_iff.1 h)
      exact .intro hdata hbody hmem (Text.trimsTo_trim codes) (range?_eq_ok_iff.1 hrange)
        (labelOf_eq_iff.1 hlabel)
  · rintro ⟨hdata, hbody, hmem, htrims, hfield, hlabel⟩
    obtain rfl := trimsTo_iff.1 htrims
    exact hdata.ofLine?_eq_ok_some_iff.2 (ofFields?_eq_ok_iff.2
      ⟨_, _, hbody, hmem, range?_eq_ok_iff.2 hfield, labelOf_eq_iff.2 hlabel⟩)

theorem RecordLine.stop_le_last (h : RecordLine line record) :
    record.range.stop ≤ lastCodepoint := by
  obtain ⟨-, -, -, -, hfield, -⟩ := h
  exact hfield.stop_le_last

/-- A line with the label. It ends in a comment, so that it is trimmed even if the label is empty. -/
def lineWithLabel (label : List Char) : List Char :=
  ['0', '0', '4', '1'] ++ ';' :: (label ++ ['#'])

/-- Every trimmed text without a comment is the label of some line, whatever separators it holds. -/
theorem recordLine_lineWithLabel (hmem : '#' ∉ label) (htrimmed : Trimmed label) :
    RecordLine (lineWithLabel label) ⟨⟨0x41, 0x41, by decide, by decide⟩, .ofList label⟩ := by
  have hends : lineWithLabel label = '0' :: '0' :: '4' :: '1' :: ';' :: label ++ ['#'] := rfl
  have htrims : TrimsTo (lineWithLabel label) (lineWithLabel label) := by
    rw [trimsTo_iff, hends, Text.trim_append_cons (by decide), Text.trimStart_of_head (by decide)]
    rfl
  have hdata : DataLine (lineWithLabel label) (lineWithLabel label) :=
    ⟨htrims, by simp [hends], by simp [hends]⟩
  have hcode : NamesCodepoint ['0', '0', '4', '1'] 0x41 := codepoint?_eq_ok_iff.1 rfl
  have hlabel : LabelIn (label ++ ['#']) (String.ofList label).toList := by
    rw [String.toList_ofList]
    exact ⟨label, .inr ⟨[], rfl⟩, hmem, trimsTo_iff.2 (Text.trim_of_trimmed htrimmed)⟩
  exact .intro hdata rfl (by decide) (trimsTo_iff.2 rfl) (.one hcode) hlabel

/-- **What is read.** Blank lines and comments are skipped. The record lines are read, each to the
record that it is, and no other line is. The label that is found is trimmed and free of comments;
every text of this form is the label of some line, whatever separators it holds. -/
theorem ofLine?_reads_grammar :
    (∀ line, ofLine? line = .ok none ↔ Skipped line) ∧
    (∀ line record, ofLine? line = .ok (some record) ↔ RecordLine line record) ∧
    (∀ line record, RecordLine line record →
      '#' ∉ record.label.toList ∧ Trimmed record.label.toList) ∧
    ∀ label, '#' ∉ label → Trimmed label →
      ∃ line record, RecordLine line record ∧ record.label.toList = label := by
  refine ⟨fun line => ofLine?_eq_ok_none_iff, fun line record => ofLine?_eq_ok_some_iff, ?_, ?_⟩
  · rintro line record ⟨-, -, -, -, -, hlabel⟩
    exact hlabel.clean
  · intro label hmem htrimmed
    exact ⟨_, _, recordLine_lineWithLabel hmem htrimmed, String.toList_ofList⟩

/-- Blanks stand around both bounds, whose letters are small and capital, and separators in the
label. -/
theorem ofLine?_reads_grammar_of_line :
    RecordLine "\t 1f00 .. 0001F02 ; Lu;0;L # a;b ".toList
      ⟨⟨0x1F00, 0x1F02, by decide, by decide⟩, "Lu;0;L"⟩ ∧
    ('#' ∉ "Lu;0;L".toList ∧ Trimmed "Lu;0;L".toList) ∧
    ∃ line record, RecordLine line record ∧ record.label.toList = "Lu;0;L".toList := by
  rcases ofLine?_reads_grammar with ⟨-, hread, hclean, hlabels⟩
  have hrecord : RecordLine "\t 1f00 .. 0001F02 ; Lu;0;L # a;b ".toList
      ⟨⟨0x1F00, 0x1F02, by decide, by decide⟩, "Lu;0;L"⟩ := (hread _ _).1 (by cbv)
  have hlabel := hclean _ _ hrecord
  exact ⟨hrecord, hlabel, hlabels _ hlabel.1 hlabel.2⟩

end CellWidth.Record
