import Mathlib
import CellWidth.Tables
import CellWidth.Proofs.Source.Reading
import CellWidth.Proofs.Table.Uniqueness

/-!
# What is built from two files

The result of a build, without its log. Two files without bad lines give each width a list of
ranges (`rangesOf`), and these make the tables (`ofRanges?`); a bad line ends the build before.

* `exists_records_of_build` : what stands behind the tables of any build that succeeds.
* `build_covers_iff` : the tables cover what the records of the files say, and are canonical.
* `build_refused_iff` : which of the things that can go wrong is reported.
-/

namespace CellWidth

open Text (LineAt lines newline)

/-! ## Results of runs -/

namespace Run

variable {α β : Type}

/-- The result of one run after another. -/
theorem result_bind (run : Run α) (next : α → Run β) :
    (run >>= next).result = run.result >>= fun a => (next a).result := by
  cases h : run.result with
  | error fault => rw [bind_of_error h]; rfl
  | ok a => rw [bind_of_ok h]; rfl

end Run

theorem Source.survey_result (source : Source) (property : Property) :
    (source.survey property).result = source.records := by
  rw [survey, Run.result_bind]
  show (source.records >>= fun records => Except.ok records) = _
  cases source.records <;> rfl

/-! ## Tables of lists of ranges -/

/-- The property whose file gives the width. -/
def Width.property : Width → Property
  | .invalid => .generalCategory
  | .zero => .generalCategory
  | .double => .eastAsianWidth

/-- Of two files the one that gives the width. -/
def Width.fileOf {α : Type} (general eastAsian : α) (width : Width) : α :=
  match width.property with
  | .generalCategory => general
  | .eastAsianWidth => eastAsian

namespace Tables

theorem tableOf_result (width : Width) (ranges : List CodeRange) :
    (tableOf width ranges).result = Table.ofRanges? width ranges := by
  rw [tableOf, Run.result_bind]
  show (Table.ofRanges? width ranges >>= fun table => Except.ok table) = _
  cases Table.ofRanges? width ranges <;> rfl

/-- The tables of a list of ranges for each width, made in the order of `Width.all`. -/
def ofRanges? (ranges : Width → List CodeRange) : Except Fault Tables := do
  let invalid ← Table.ofRanges? .invalid (ranges .invalid)
  let zero ← Table.ofRanges? .zero (ranges .zero)
  let double ← Table.ofRanges? .double (ranges .double)
  return ⟨invalid, zero, double⟩

variable {ranges : Width → List CodeRange}

/-- The first width without a range is reported; if every width has one, each list is coalesced. -/
theorem ofRanges?_eq :
    ofRanges? ranges =
      match Width.all.find? fun width => ranges width = [] with
      | some width => .error (.emptyTable width)
      | none =>
        .ok ⟨coalesce (ranges .invalid), coalesce (ranges .zero), coalesce (ranges .double)⟩ := by
  by_cases hinvalid : ranges .invalid = []
  · simp [ofRanges?, Table.ofRanges?, Width.all, hinvalid, bind, Except.bind]
  by_cases hzero : ranges .zero = []
  · simp [ofRanges?, Table.ofRanges?, Width.all, hinvalid, hzero, bind, Except.bind]
  by_cases hdouble : ranges .double = []
  · simp [ofRanges?, Table.ofRanges?, Width.all, hinvalid, hzero, hdouble, bind, Except.bind]
  · simp [ofRanges?, Table.ofRanges?, Width.all, hinvalid, hzero, hdouble, bind, Except.bind, pure,
      Except.pure]

theorem ofRanges?_eq_error_iff {fault : Fault} :
    ofRanges? ranges = .error fault ↔
      ∃ before width after, Width.all = before ++ width :: after ∧
        (∀ earlier ∈ before, ranges earlier ≠ []) ∧ ranges width = [] ∧
          fault = .emptyTable width := by
  rw [ofRanges?_eq]
  constructor
  · intro h
    split at h
    · next width hfind =>
      cases h
      rcases List.find?_eq_some_iff_append.1 hfind with ⟨hempty, before, after, hall, hbefore⟩
      exact ⟨before, width, after, hall, by simpa using hbefore, by simpa using hempty, rfl⟩
    · cases h
  · intro hfirst
    rcases hfirst with ⟨before, width, after, hall, hbefore, hempty, rfl⟩
    have hfind : Width.all.find? (fun width => ranges width = []) = some width :=
      List.find?_eq_some_iff_append.2
        ⟨by simpa using hempty, before, after, hall, by simpa using hbefore⟩
    rw [hfind]

/-- If every width has a range, there are tables. -/
theorem ofRanges?_of_forall_ne_nil (h : ∀ width, ranges width ≠ []) :
    ofRanges? ranges =
      .ok ⟨coalesce (ranges .invalid), coalesce (ranges .zero), coalesce (ranges .double)⟩ := by
  have hfind : Width.all.find? (fun width => ranges width = []) = none := by
    refine List.find?_eq_none.2 fun width _ => ?_
    simpa using h width
  rw [ofRanges?_eq, hfind]

theorem ofRanges?_eq_ok_iff {tables : Tables} :
    ofRanges? ranges = .ok tables ↔
      ∀ width, ranges width ≠ [] ∧ tables.get width = coalesce (ranges width) := by
  rw [ofRanges?_eq]
  constructor
  · intro h width
    -- there are tables only if the search for a width without a range finds none
    split at h
    · cases h
    · next hfind =>
      cases h
      have hne : ranges width ≠ [] := by
        have hall : width ∈ Width.all := by cases width <;> decide
        simpa using List.find?_eq_none.1 hfind width hall
      exact ⟨hne, by cases width <;> rfl⟩
  · intro h
    rw [← ofRanges?_eq, ofRanges?_of_forall_ne_nil fun width => (h width).1]
    cases tables
    simp only [← (h _).2, get]

/-! ## Two files -/

/-- The ranges that the lines of two files give a width, in order. -/
def rangesOf (general eastAsian : List UInt8) (width : Width) : List CodeRange :=
  width.property.rangesOf width
    ((lines (width.fileOf general eastAsian)).filterMap recordOf?)

section Files

variable {generalName eastAsianName : String} {general eastAsian : List UInt8} {width : Width}

/-- A width gets the ranges of the records in its file that have one of its labels. -/
theorem mem_rangesOf_iff {r : CodeRange} :
    r ∈ rangesOf general eastAsian width ↔
      ∃ record, HasRecord (width.fileOf general eastAsian) record ∧
        record.label ∈ width.labels ∧ record.range = r := by
  have hdeclared : width ∈ width.property.widths := by cases width <;> decide
  simp only [rangesOf, Property.rangesOf, List.mem_filterMap, Option.ite_none_right_eq_some,
    Option.some.injEq, Property.classOf?_eq_some, hdeclared, true_and,
    ← mem_filterMap_recordOf?_iff]

/-- Both sources are read to their records, and these make the tables. -/
theorem build_result (general eastAsian : Source) :
    (build general eastAsian).result = (do
      let categories ← general.records
      let widths ← eastAsian.records
      ofRanges? fun width => width.property.rangesOf width (width.fileOf categories widths)) := by
  simp only [build, Run.result_bind, Source.survey_result, tableOf_result]
  rfl

/-- A build that succeeds has read both sources, and coalesced what their records give a width. -/
theorem exists_records_of_build {general eastAsian : Source} {tables : Tables}
    (h : (build general eastAsian).result = .ok tables) :
    ∃ records : Width → List Record,
      (∀ width : Width, (width.fileOf general eastAsian).records = .ok (records width)) ∧
      ∀ width : Width, width.property.rangesOf width (records width) ≠ [] ∧
        tables.get width = coalesce (width.property.rangesOf width (records width)) := by
  rw [build_result] at h
  cases hcategories : general.records with
  | error fault => rw [hcategories] at h; cases h
  | ok categories =>
    cases hwidths : eastAsian.records with
    | error fault => rw [hcategories, hwidths] at h; cases h
    | ok widths =>
      rw [hcategories, hwidths] at h
      refine ⟨fun width : Width => width.fileOf categories widths, fun width => ?_,
        ofRanges?_eq_ok_iff.1 h⟩
      cases width <;> assumption

/-- Two files without bad lines are read to the records of their lines. -/
theorem build_result_of_good (hgeneral : ¬ HasBadLine general)
    (heastAsian : ¬ HasBadLine eastAsian) :
    (build (.ofBytes generalName general) (.ofBytes eastAsianName eastAsian)).result =
      ofRanges? (rangesOf general eastAsian) := by
  have hranges : (fun width => width.property.rangesOf width
      (width.fileOf ((lines general).filterMap recordOf?)
        ((lines eastAsian).filterMap recordOf?))) = rangesOf general eastAsian := by
    funext width
    cases width <;> rfl
  rw [build_result, Source.records_eq_ok hgeneral, Source.records_eq_ok heastAsian, ← hranges]
  rfl

/-- A first file that cannot be read ends the build. -/
theorem build_result_of_bad_general {general eastAsian : Source} {fault : Fault}
    (h : general.records = .error fault) :
    (build general eastAsian).result = .error fault := by
  rw [build_result, h]
  rfl

/-- After a good first file, a second one that cannot be read ends the build. -/
theorem build_result_of_bad_eastAsian {eastAsian : Source} {fault : Fault}
    (hgeneral : ¬ HasBadLine general) (h : eastAsian.records = .error fault) :
    (build (.ofBytes generalName general) eastAsian).result = .error fault := by
  rw [build_result, Source.records_eq_ok hgeneral, h]
  rfl

/-! ## What the tables hold -/

/-- The code value lies in a record of the bytes that has one of the labels. -/
def Assigns (bytes : List UInt8) (labels : List String) (c : Nat) : Prop :=
  ∃ record, HasRecord bytes record ∧ record.label ∈ labels ∧ c ∈ record.range

/-- The ranges of a width cover what the records of its file assign to its labels. -/
theorem covers_rangesOf_iff {c : Nat} :
    Covers (rangesOf general eastAsian width) c ↔
      Assigns (width.fileOf general eastAsian) width.labels c := by
  constructor
  · intro hcovers
    rcases hcovers with ⟨r, hr, hc⟩
    rcases mem_rangesOf_iff.1 hr with ⟨record, hrecord, hlabel, rfl⟩
    exact ⟨record, hrecord, hlabel, hc⟩
  · intro hassigns
    rcases hassigns with ⟨record, hrecord, hlabel, hc⟩
    exact ⟨record.range, mem_rangesOf_iff.2 ⟨record, hrecord, hlabel, rfl⟩, hc⟩

/-- A build that succeeds has read both files to their ends and coalesced what they gave. -/
theorem build_eq_ok {tables : Tables}
    (h : (build (.ofBytes generalName general) (.ofBytes eastAsianName eastAsian)).result =
      .ok tables) :
    ¬ HasBadLine general ∧ ¬ HasBadLine eastAsian ∧
      ofRanges? (rangesOf general eastAsian) = .ok tables := by
  -- a bad line of either file would have been reported
  rcases exists_records_of_build h with ⟨records, hread, -⟩
  have hgeneral : ¬ HasBadLine general := Source.not_hasBadLine_of_records (hread .invalid)
  have heastAsian : ¬ HasBadLine eastAsian := Source.not_hasBadLine_of_records (hread .double)
  rw [build_result_of_good hgeneral heastAsian] at h
  exact ⟨hgeneral, heastAsian, h⟩

/-- **What is built.** Each table covers exactly what the records of its file assign to the labels
of its width, is not empty, and leaves a gap between any two of its entries. -/
theorem build_covers_iff {tables : Tables}
    (h : (build (.ofBytes generalName general) (.ofBytes eastAsianName eastAsian)).result =
      .ok tables) :
    (∀ c, Covers tables.invalid c ↔ Assigns general ["Cn"] c) ∧
    (∀ c, Covers tables.zero c ↔ Assigns general ["Me", "Mn", "Cf"] c) ∧
    (∀ c, Covers tables.double c ↔ Assigns eastAsian ["W", "F"] c) ∧
    ∀ width, tables.get width ≠ [] ∧
      ∀ (i j : Nat) (_ : i < j) (_ : j < (tables.get width).length),
        (tables.get width)[i].start ≤ (tables.get width)[i].stop ∧
          (tables.get width)[i].stop + 1 < (tables.get width)[j].start := by
  rcases build_eq_ok h with ⟨-, -, hmade⟩
  have hwidths := ofRanges?_eq_ok_iff.1 hmade
  have hcovers (width : Width) (c : Nat) : Covers (tables.get width) c ↔
      Assigns (width.fileOf general eastAsian) width.labels c := by
    rw [(hwidths width).2, covers_coalesce, covers_rangesOf_iff]
  refine ⟨hcovers .invalid, hcovers .zero, hcovers .double, fun width => ⟨?_, ?_⟩⟩
  · -- a range that was read covers something, and coalescing keeps it
    rw [← exists_covers_iff, (hwidths width).2]
    simp only [covers_coalesce]
    exact exists_covers_iff.2 (hwidths width).1
  · intro i j hij hj
    have hcanonical : Canonical (tables.get width) :=
      (hwidths width).2 ▸ canonical_coalesce (rangesOf general eastAsian width)
    exact ⟨CodeRange.start_le_stop _, List.pairwise_iff_getElem.1 hcanonical i j _ hj hij⟩

/-- Ranges that abut or come in any order are joined; other labels are left out. -/
theorem build_covers_iff_of_files :
    (build (.ofBytes "gc" (Text.Utf8.encode "037A;Cn # x\r\n0378..0379;Cn\n0041;Lu\n0300;Mn"))
        (.ofBytes "eaw" (Text.Utf8.encode "3001..3003;W\n3000;F\n"))).result =
      .ok ⟨[⟨0x378, 0x37A, by decide, by decide⟩], [⟨0x300, 0x300, by decide, by decide⟩],
        [⟨0x3000, 0x3003, by decide, by decide⟩]⟩ ∧
    ∀ c, Covers [⟨0x3000, 0x3003, by decide, by decide⟩] c ↔
      Assigns (Text.Utf8.encode "3001..3003;W\n3000;F\n") ["W", "F"] c := by
  have hbuild : (build
      (.ofBytes "gc" (Text.Utf8.encode "037A;Cn # x\r\n0378..0379;Cn\n0041;Lu\n0300;Mn"))
      (.ofBytes "eaw" (Text.Utf8.encode "3001..3003;W\n3000;F\n"))).result =
      .ok ⟨[⟨0x378, 0x37A, by decide, by decide⟩], [⟨0x300, 0x300, by decide, by decide⟩],
        [⟨0x3000, 0x3003, by decide, by decide⟩]⟩ := by cbv
  exact ⟨hbuild, (build_covers_iff hbuild).2.2.1⟩

/-! ## What is reported -/

/-- The file of the width has a record whose label is classified to it. -/
def Classifies (general eastAsian : List UInt8) (width : Width) : Prop :=
  ∃ record, HasRecord (width.fileOf general eastAsian) record ∧
    width.property.classOf? record.label = some width

/-- A width has a range exactly when some record is classified to it. -/
theorem rangesOf_ne_nil_iff :
    rangesOf general eastAsian width ≠ [] ↔ Classifies general eastAsian width := by
  have hdeclared : width ∈ width.property.widths := by cases width <;> decide
  simp only [Classifies, Property.classOf?_eq_some, hdeclared, true_and]
  constructor
  · intro hne
    rcases List.exists_mem_of_ne_nil _ hne with ⟨r, hr⟩
    rcases mem_rangesOf_iff.1 hr with ⟨record, hrecord, hlabel, -⟩
    exact ⟨record, hrecord, hlabel⟩
  · intro hclass
    rcases hclass with ⟨record, hrecord, hlabel⟩
    exact List.ne_nil_of_mem (mem_rangesOf_iff.2 ⟨record, hrecord, hlabel, rfl⟩)

/-- Two files that are read to their ends are refused for the first width without a record. -/
theorem ofRanges?_rangesOf_eq_error_iff {fault : Fault} :
    ofRanges? (rangesOf general eastAsian) = .error fault ↔
      ∃ before width after, [.invalid, .zero, .double] = before ++ width :: after ∧
        (∀ earlier ∈ before, Classifies general eastAsian earlier) ∧
          ¬ Classifies general eastAsian width ∧ fault = .emptyTable width := by
  have hempty (width : Width) :
      rangesOf general eastAsian width = [] ↔ ¬ Classifies general eastAsian width := by
    rw [← rangesOf_ne_nil_iff, not_not]
  rw [ofRanges?_eq_error_iff]
  simp only [ne_eq, hempty, not_not]
  exact Iff.rfl

/-- If the first file has a bad line, the build is refused as the reading of this file is. -/
theorem build_eq_error_iff_of_bad_general {fault : Fault} (hgeneral : HasBadLine general) :
    (build (.ofBytes generalName general) (.ofBytes eastAsianName eastAsian)).result =
        .error fault ↔ (Source.ofBytes generalName general).records = .error fault := by
  rcases (Source.records_refused_iff generalName).2 hgeneral with ⟨fault', hread⟩
  rw [build_result_of_bad_general hread, hread, Except.error.injEq, Except.error.injEq]

/-- If only the second file has one, it is refused as the reading of that file is. -/
theorem build_eq_error_iff_of_bad_eastAsian {fault : Fault} (hgeneral : ¬ HasBadLine general)
    (heastAsian : HasBadLine eastAsian) :
    (build (.ofBytes generalName general) (.ofBytes eastAsianName eastAsian)).result =
        .error fault ↔ (Source.ofBytes eastAsianName eastAsian).records = .error fault := by
  rcases (Source.records_refused_iff eastAsianName).2 heastAsian with ⟨fault', hread⟩
  rw [build_result_of_bad_eastAsian hgeneral hread, hread, Except.error.injEq, Except.error.injEq]

/-- **What is reported.** The first bad line of the first file, else the first bad line of the
second one, else the first width without a record; if there is nothing to report, tables are
made. -/
theorem build_refused_iff (generalName eastAsianName : String) (general eastAsian : List UInt8) :
    (∀ fault,
      (build (.ofBytes generalName general) (.ofBytes eastAsianName eastAsian)).result =
          .error fault ↔
        (∃ before line, FirstBadLine general before line ∧
          FaultAt generalName before line fault) ∨
        (¬ HasBadLine general ∧ ∃ before line, FirstBadLine eastAsian before line ∧
          FaultAt eastAsianName before line fault) ∨
        (¬ HasBadLine general ∧ ¬ HasBadLine eastAsian ∧
          ∃ before width after, [.invalid, .zero, .double] = before ++ width :: after ∧
            (∀ earlier ∈ before, Classifies general eastAsian earlier) ∧
            ¬ Classifies general eastAsian width ∧ fault = .emptyTable width)) ∧
    ((∃ tables,
      (build (.ofBytes generalName general) (.ofBytes eastAsianName eastAsian)).result =
          .ok tables) ↔
        ¬ HasBadLine general ∧ ¬ HasBadLine eastAsian ∧
          ∀ width, Classifies general eastAsian width) ∧
    FileFault.message .notUtf8 = "stream did not contain valid UTF-8" := by
  refine ⟨fun fault => ?_, ?_, rfl⟩
  · have hnone {bytes : List UInt8} {name : String} (hgood : ¬ HasBadLine bytes) :
        ¬ ∃ before line, FirstBadLine bytes before line ∧ FaultAt name before line fault := by
      intro hfirst
      rcases hfirst with ⟨before, line, hfirst, -⟩
      exact hgood ⟨before, line, hfirst.lineAt, hfirst.bad⟩
    -- of the three things that can be reported, those that come first hide the others
    by_cases hgeneral : HasBadLine general
    · rw [build_eq_error_iff_of_bad_general hgeneral, Source.records_eq_error_iff]
      simp only [hgeneral, not_true, false_and, or_false]
    by_cases heastAsian : HasBadLine eastAsian
    · rw [build_eq_error_iff_of_bad_eastAsian hgeneral heastAsian, Source.records_eq_error_iff]
      simp only [hnone hgeneral, hgeneral, heastAsian, not_false_iff, not_true, true_and, false_and,
        false_or, or_false]
    · rw [build_result_of_good hgeneral heastAsian, ofRanges?_rangesOf_eq_error_iff]
      simp only [hnone hgeneral, hnone heastAsian, hgeneral, heastAsian, not_false_iff, true_and,
        and_false, false_or]
  · constructor
    · intro hok
      rcases hok with ⟨tables, h⟩
      rcases build_eq_ok h with ⟨hgeneral, heastAsian, hmade⟩
      refine ⟨hgeneral, heastAsian, fun width => ?_⟩
      exact rangesOf_ne_nil_iff.1 (ofRanges?_eq_ok_iff.1 hmade width).1
    · intro hgood
      rcases hgood with ⟨hgeneral, heastAsian, hclass⟩
      rw [build_result_of_good hgeneral heastAsian,
        ofRanges?_of_forall_ne_nil fun width => rangesOf_ne_nil_iff.2 (hclass width)]
      exact ⟨_, rfl⟩

end Files

end Tables

end CellWidth
