import CellWidth.Proofs.Table.Merging
import CellWidth.Proofs.Tables.Building

/-!
# Files one after another

What two files give can be had from the pieces, if the first piece of each ends in a newline.

* `FirstBadLine.append`, `FaultAt.malformed_append` : behind a piece without bad lines the first bad
  line is the same one, further down.
* `rangesOf_append` : the ranges of the whole are those of the pieces, in order.
* `build_append` : so the tables of the pieces make the tables of the whole, and a malformed line of
  the second pieces is reported with the lines of the first ones counted.
-/

namespace CellWidth

open Text (AtLineStart LineAt lines lines_append newline)

section Lines

variable {bytes later before line : List UInt8}

/-- The whole has a bad line if and only if one of its pieces has. -/
theorem not_hasBadLine_append (hstart : AtLineStart bytes) :
    ¬ HasBadLine (bytes ++ later) ↔ ¬ HasBadLine bytes ∧ ¬ HasBadLine later := by
  simp only [not_hasBadLine_iff, lines_append hstart, List.forall_mem_append]

/-- Behind a piece without bad lines the first bad line is that of what follows. -/
theorem FirstBadLine.append (hstart : AtLineStart bytes) (hgood : ¬ HasBadLine bytes)
    (h : FirstBadLine later before line) :
    FirstBadLine (bytes ++ later) (bytes ++ before) line := by
  refine ⟨h.lineAt.append hstart, h.bad, fun before' line' hat hlt => ?_⟩
  have hcount : bytes.count newline = (lines bytes).length :=
    Text.count_newline_eq_length_lines hstart
  have hline : (lines bytes ++ lines later)[before'.count newline]? = some line' := by
    rw [← lines_append hstart]
    exact Text.lines_getElem?_eq_some_iff.2 ⟨before', hat, rfl⟩
  rw [List.count_append] at hlt
  -- an earlier line is one of the first piece, or an earlier line of what follows
  by_cases hpiece : before'.count newline < (lines bytes).length
  · rw [List.getElem?_append_left hpiece] at hline
    exact not_hasBadLine_iff.1 hgood line' (List.mem_of_getElem? hline)
  · rw [List.getElem?_append_right (by omega)] at hline
    rcases Text.lines_getElem?_eq_some_iff.1 hline with ⟨before'', hat'', hindex⟩
    exact h.first before'' line' hat'' (by omega)

/-- What is wrong with a malformed line stays, but the lines put in front are counted. -/
theorem FaultAt.malformed_append {name fileName text : String} {index : Nat} {reason : RecordFault}
    (hstart : AtLineStart bytes)
    (h : FaultAt name before line (.malformed fileName index text reason)) :
    FaultAt name (bytes ++ before) line
      (.malformed fileName (index + (lines bytes).length) text reason) := by
  cases h with
  | @malformed text reason htext hread =>
    have hindex : (bytes ++ before).count newline + 1 =
        before.count newline + 1 + (lines bytes).length := by
      rw [List.count_append, Text.count_newline_eq_length_lines hstart]
      omega
    rw [← hindex]
    exact .malformed htext hread

/-- A source that is refused for a malformed line is refused for it behind a good piece too. -/
theorem Source.records_append_eq_malformed {name fileName text : String} {index : Nat}
    {reason : RecordFault} (hstart : AtLineStart bytes) (hgood : ¬ HasBadLine bytes)
    (h : (ofBytes name later).records = .error (.malformed fileName index text reason)) :
    (ofBytes name (bytes ++ later)).records =
      .error (.malformed fileName (index + (lines bytes).length) text reason) := by
  rcases records_eq_error_iff.1 h with ⟨before, line, hfirst, hfault⟩
  exact records_eq_error_iff.2
    ⟨bytes ++ before, line, hfirst.append hstart hgood, hfault.malformed_append hstart⟩

end Lines

namespace Tables

variable {generalName eastAsianName : String} {general eastAsian general' eastAsian' : List UInt8}

/-- The ranges of a width are those of the pieces, in order. -/
theorem rangesOf_append (hgeneral : AtLineStart general) (heastAsian : AtLineStart eastAsian)
    (width : Width) :
    rangesOf (general ++ general') (eastAsian ++ eastAsian') width =
      rangesOf general eastAsian width ++ rangesOf general' eastAsian' width := by
  cases width <;>
    simp only [rangesOf, Width.fileOf, Width.property, lines_append hgeneral,
      lines_append heastAsian, List.filterMap_append, Property.rangesOf]

/-- The tables of pieces make the tables of the whole. -/
theorem ofRanges?_append {ranges ranges' : Width → List CodeRange} {tables tables' : Tables}
    (h : ofRanges? ranges = .ok tables) (h' : ofRanges? ranges' = .ok tables') :
    ∃ both, ofRanges? (fun width => ranges width ++ ranges' width) = .ok both ∧
      ∀ width, Table.ofRanges? width (tables.get width ++ tables'.get width) =
        .ok (both.get width) := by
  have hne (width : Width) : ranges width ++ ranges' width ≠ [] :=
    List.append_ne_nil_of_left_ne_nil (ofRanges?_eq_ok_iff.1 h width).1 _
  refine ⟨_, ofRanges?_of_forall_ne_nil hne, fun width => Table.ofRanges?_eq_ok_iff.2 ?_⟩
  rw [(ofRanges?_eq_ok_iff.1 (ofRanges?_of_forall_ne_nil hne) width).2,
    (ofRanges?_eq_ok_iff.1 h width).2, (ofRanges?_eq_ok_iff.1 h' width).2, coalesce_append]
  -- the table of the first piece is not empty, as its ranges are not
  have htable : coalesce (ranges width) ≠ [] :=
    coalesce_ne_nil_iff.2 (ofRanges?_eq_ok_iff.1 h width).1
  exact ⟨List.append_ne_nil_of_left_ne_nil htable _, rfl⟩

/-- A build that reports a malformed line has found it in the first file or, with the first file
read to its end, in the second one. -/
theorem records_of_build_eq_malformed {name text : String} {index : Nat} {reason : RecordFault}
    (h : (build (.ofBytes generalName general) (.ofBytes eastAsianName eastAsian)).result =
      .error (.malformed name index text reason)) :
    (Source.ofBytes generalName general).records = .error (.malformed name index text reason) ∨
      ¬ HasBadLine general ∧
        (Source.ofBytes eastAsianName eastAsian).records =
          .error (.malformed name index text reason) := by
  by_cases hgeneral : HasBadLine general
  · exact .inl ((build_eq_error_iff_of_bad_general hgeneral).1 h)
  by_cases heastAsian : HasBadLine eastAsian
  · exact .inr ⟨hgeneral, (build_eq_error_iff_of_bad_eastAsian hgeneral heastAsian).1 h⟩
  · -- without bad lines nothing but a missing width is reported
    rw [build_result_of_good hgeneral heastAsian] at h
    rcases ofRanges?_eq_error_iff.1 h with ⟨before, width, after, -, -, -, hfault⟩
    cases hfault

/-- **Files in pieces.** If the first piece of each file is empty or ends in a newline and makes
tables, then the whole makes the tables that the pieces' tables make; and a malformed line in a
second piece is reported as it is alone, behind the lines of the first piece of its file. -/
theorem build_append (generalName eastAsianName : String)
    (general eastAsian general' eastAsian' : List UInt8) (tables : Tables)
    (hgeneral : AtLineStart general) (heastAsian : AtLineStart eastAsian)
    (h : (build (.ofBytes generalName general) (.ofBytes eastAsianName eastAsian)).result =
      .ok tables) :
    (∀ tables',
      (build (.ofBytes generalName general') (.ofBytes eastAsianName eastAsian')).result =
          .ok tables' →
        ∃ both,
          (build (.ofBytes generalName (general ++ general'))
              (.ofBytes eastAsianName (eastAsian ++ eastAsian'))).result = .ok both ∧
            ∀ width, Table.ofRanges? width (tables.get width ++ tables'.get width) =
              .ok (both.get width)) ∧
    ∀ name index text reason,
      (build (.ofBytes generalName general') (.ofBytes eastAsianName eastAsian')).result =
          .error (.malformed name index text reason) →
        ((Source.ofBytes generalName general').records =
            .error (.malformed name index text reason) ∧
          (build (.ofBytes generalName (general ++ general'))
              (.ofBytes eastAsianName (eastAsian ++ eastAsian'))).result =
            .error (.malformed name (index + (lines general).length) text reason)) ∨
        ((∃ records, (Source.ofBytes generalName general').records = .ok records) ∧
          (Source.ofBytes eastAsianName eastAsian').records =
            .error (.malformed name index text reason) ∧
          (build (.ofBytes generalName (general ++ general'))
              (.ofBytes eastAsianName (eastAsian ++ eastAsian'))).result =
            .error (.malformed name (index + (lines eastAsian).length) text reason)) := by
  rcases build_eq_ok h with ⟨hgood, hgood', hmade⟩
  constructor
  · intro tables' h'
    rcases build_eq_ok h' with ⟨hlater, hlater', hmade'⟩
    rcases ofRanges?_append hmade hmade' with ⟨both, hboth, htables⟩
    refine ⟨both, ?_, htables⟩
    rw [build_result_of_good ((not_hasBadLine_append hgeneral).2 ⟨hgood, hlater⟩)
      ((not_hasBadLine_append heastAsian).2 ⟨hgood', hlater'⟩), ← hboth]
    exact congrArg ofRanges? (funext (rangesOf_append hgeneral heastAsian))
  · intro name index text reason h'
    rcases records_of_build_eq_malformed h' with hread | ⟨hlater, hread⟩
    · exact .inl ⟨hread, build_result_of_bad_general
        (Source.records_append_eq_malformed hgeneral hgood hread)⟩
    · exact .inr ⟨⟨_, Source.records_eq_ok hlater⟩, hread,
        build_result_of_bad_eastAsian ((not_hasBadLine_append hgeneral).2 ⟨hgood, hlater⟩)
          (Source.records_append_eq_malformed heastAsian hgood' hread)⟩

/-- Ranges that meet at the seam become one entry, and a bad second line is the fourth one behind
two others. -/
theorem build_append_of_files :
    (∃ both,
      (build (.ofBytes "gc" (Text.Utf8.encode "0378;Cn\n0300;Mn\n" ++
            Text.Utf8.encode "0301;Mn\n0379;Cn"))
          (.ofBytes "eaw" (Text.Utf8.encode "3000;F\n" ++ Text.Utf8.encode "3001;W\n"))).result =
        .ok both ∧
      Table.ofRanges? .invalid
          ([⟨0x378, 0x378, by decide, by decide⟩] ++ [⟨0x379, 0x379, by decide, by decide⟩]) =
        .ok (both.get .invalid)) ∧
    (build (.ofBytes "gc" (Text.Utf8.encode "0378;Cn\n0300;Mn\n" ++
          Text.Utf8.encode "0301;Mn\n03ZZ;Cn"))
        (.ofBytes "eaw" (Text.Utf8.encode "3000;F\n" ++ Text.Utf8.encode "3001;W\n"))).result =
      .error (.malformed "gc" (2 + 2) "03ZZ;Cn" (.badCode "03ZZ")) := by
  have hgeneral : AtLineStart (Text.Utf8.encode "0378;Cn\n0300;Mn\n") := .inr (by cbv)
  have heastAsian : AtLineStart (Text.Utf8.encode "3000;F\n") := .inr (by cbv)
  have hfirst : (build (.ofBytes "gc" (Text.Utf8.encode "0378;Cn\n0300;Mn\n"))
      (.ofBytes "eaw" (Text.Utf8.encode "3000;F\n"))).result =
      .ok ⟨[⟨0x378, 0x378, by decide, by decide⟩], [⟨0x300, 0x300, by decide, by decide⟩],
        [⟨0x3000, 0x3000, by decide, by decide⟩]⟩ := by cbv
  constructor
  · have hsecond : (build (.ofBytes "gc" (Text.Utf8.encode "0301;Mn\n0379;Cn"))
        (.ofBytes "eaw" (Text.Utf8.encode "3001;W\n"))).result =
        .ok ⟨[⟨0x379, 0x379, by decide, by decide⟩], [⟨0x301, 0x301, by decide, by decide⟩],
          [⟨0x3001, 0x3001, by decide, by decide⟩]⟩ := by cbv
    rcases (build_append "gc" "eaw" _ _ _ _ _ hgeneral heastAsian hfirst).1 _ hsecond with
      ⟨both, hboth, htables⟩
    exact ⟨both, hboth, htables .invalid⟩
  · have hsecond : (build (.ofBytes "gc" (Text.Utf8.encode "0301;Mn\n03ZZ;Cn"))
        (.ofBytes "eaw" (Text.Utf8.encode "3001;W\n"))).result =
        .error (.malformed "gc" 2 "03ZZ;Cn" (.badCode "03ZZ")) := by cbv
    have hlines : (lines (Text.Utf8.encode "0378;Cn\n0300;Mn\n")).length = 2 := by cbv
    rcases (build_append "gc" "eaw" _ _ _ _ _ hgeneral heastAsian hfirst).2 _ _ _ _ hsecond with
      ⟨-, hboth⟩ | ⟨-, hread, -⟩
    · rwa [hlines] at hboth
    · -- the second file of the pieces has no bad line
      have hread' : (Source.ofBytes "eaw" (Text.Utf8.encode "3001;W\n")).records =
          .ok [⟨⟨0x3001, 0x3001, by decide, by decide⟩, "W"⟩] := by cbv
      rw [hread'] at hread
      cases hread

end Tables

end CellWidth
