import CellWidth.Proofs.Table.Counting
import CellWidth.Proofs.Tables.Building
import CellWidth.Proofs.Text.Cut

/-!
# What a build logs

A build that succeeds logs how many lines of its files are classified to each width, and then the
summary of each table. Of these events a build that fails logs the first ones, up to the place where
it failed.

* `classifiedLines general eastAsian width` : how many lines of the file of a width are classified
  to it.
* `fullLog` : the six events of two files, whatever becomes of their build.
* `build_of_good` : files without bad lines are surveyed, and then each table is made in turn.
* `LogAgrees` : what a log has to do with the result and with the files. `build_log_agrees` : the
  log of a build does so.
-/

namespace CellWidth

open Text (lines)

/-! ## Runs of one step -/

namespace Source

variable {source : Source} {property : Property} {records : List Record} {fault : Fault}

theorem survey_of_error (h : source.records = .error fault) :
    source.survey property = ⟨[], .error fault⟩ := by
  have hread : (Run.ofExcept source.records).result = .error fault := h
  exact Run.bind_of_error hread _

theorem survey_of_ok (h : source.records = .ok records) :
    source.survey property = ⟨property.widths.map fun width =>
      .surveyed source.name (property.rangesOf width records).length width, .ok records⟩ := by
  have hread : (Run.ofExcept source.records).result = .ok records := h
  rw [survey, Run.bind_of_ok hread]
  simp [Run.ofExcept, Run.note, Run.bind_of_ok]

end Source

namespace Tables

variable {width : Width} {ranges : Width → List CodeRange}

theorem tableOf_nil (width : Width) : tableOf width [] = ⟨[], .error (.emptyTable width)⟩ := rfl

theorem tableOf_of_ne_nil {ranges : List CodeRange} (h : ranges ≠ []) :
    tableOf width ranges =
      ⟨[.tabled (.ofRanges width (coalesce ranges))], .ok (coalesce ranges)⟩ := by
  have hmade : (Run.ofExcept (Table.ofRanges? width ranges)).result = .ok (coalesce ranges) :=
    Table.ofRanges?_eq_ok_iff.2 ⟨h, rfl⟩
  rw [tableOf, Run.bind_of_ok hmade]
  simp [Run.ofExcept, Run.note, Run.bind_of_ok]

/-! ## Tables in turn -/

/-- The summary of the table of a width. -/
def tabled (ranges : Width → List CodeRange) (width : Width) : Event :=
  .tabled (.ofRanges width (coalesce (ranges width)))

/-- The tables of a list of ranges for each width, made in the order of `Width.all`. -/
def inTurn (ranges : Width → List CodeRange) : Run Tables := do
  let invalid ← tableOf .invalid (ranges .invalid)
  let zero ← tableOf .zero (ranges .zero)
  let double ← tableOf .double (ranges .double)
  return ⟨invalid, zero, double⟩

theorem inTurn_result (ranges : Width → List CodeRange) :
    (inTurn ranges).result = ofRanges? ranges := by
  simp only [inTurn, Run.result_bind, tableOf_result]
  rfl

theorem log_tableOf_bind {α : Type} (ranges : Width → List CodeRange) (width : Width)
    (next : List CodeRange → Run α) :
    (tableOf width (ranges width) >>= next).log =
      if ranges width = [] then []
      else tabled ranges width :: (next (coalesce (ranges width))).log := by
  split
  · next hnil =>
    rw [hnil, tableOf_nil, Run.bind_of_error rfl]
  · next hne =>
    rw [tableOf_of_ne_nil hne, Run.bind_of_ok rfl]
    rfl

/-- What is logged are the tables in front of the first one that has no ranges. -/
theorem inTurn_log (ranges : Width → List CodeRange) :
    (inTurn ranges).log =
      (Width.all.takeWhile fun width => ranges width ≠ []).map (tabled ranges) := by
  simp only [inTurn, log_tableOf_bind, Run.log_pure, Width.all, List.takeWhile_cons,
    List.takeWhile_nil, decide_not, Bool.not_eq_true', decide_eq_false_iff_not]
  split_ifs <;> rfl

/-- If there are tables of all widths, they are logged with their summaries. -/
theorem inTurn_log_of_ok {tables : Tables} (h : ofRanges? ranges = .ok tables) :
    (inTurn ranges).log = Width.all.map (tabled ranges) := by
  have hwidths := ofRanges?_eq_ok_iff.1 h
  have hall : Width.all.takeWhile (fun width => ranges width ≠ []) = Width.all :=
    List.takeWhile_eq_self_iff.2 fun width _ => decide_eq_true (hwidths width).1
  rw [inTurn_log, hall]

/-- Otherwise the tables in front of the width without ranges are logged. -/
theorem inTurn_log_of_error {before after : List Width} {width : Width}
    (hall : Width.all = before ++ width :: after)
    (hbefore : ∀ earlier ∈ before, ranges earlier ≠ []) (hempty : ranges width = []) :
    (inTurn ranges).log = before.map (tabled ranges) := by
  have hmade : ∀ earlier ∈ before, decide (ranges earlier ≠ []) = true :=
    fun earlier hearlier => decide_eq_true (hbefore earlier hearlier)
  rw [inTurn_log, hall, Text.takeWhile_append_of_head? hmade (by simp [hempty])]

/-! ## Two files -/

section Files

variable {generalName eastAsianName : String} {general eastAsian : List UInt8} {width : Width}

/-- How many lines of the file of a width are records whose label is classified to it. -/
def classifiedLines (general eastAsian : List UInt8) (width : Width) : Nat :=
  (lines (width.fileOf general eastAsian)).countP fun line =>
    (recordOf? line).any fun record => width.property.classOf? record.label = some width

theorem length_rangesOf (general eastAsian : List UInt8) (width : Width) :
    (rangesOf general eastAsian width).length = classifiedLines general eastAsian width := by
  rw [rangesOf, Property.rangesOf, List.filterMap_filterMap, List.length_filterMap_eq_countP,
    classifiedLines]
  refine List.countP_congr fun line _ => ?_
  cases recordOf? line <;> simp

/-- What the surveys of two files log. -/
def surveyed (generalName eastAsianName : String) (general eastAsian : List UInt8) : List Event :=
  Width.all.map fun width => .surveyed (width.fileOf generalName eastAsianName)
    (classifiedLines general eastAsian width) width

/-- The events of two files, whatever becomes of their build. -/
def fullLog (generalName eastAsianName : String) (general eastAsian : List UInt8) : List Event :=
  surveyed generalName eastAsianName general eastAsian ++
    Width.all.map (tabled (rangesOf general eastAsian))

theorem build_of_good (hgeneral : ¬ HasBadLine general) (heastAsian : ¬ HasBadLine eastAsian) :
    build (.ofBytes generalName general) (.ofBytes eastAsianName eastAsian) =
      ⟨surveyed generalName eastAsianName general eastAsian ++
        (inTurn (rangesOf general eastAsian)).log, ofRanges? (rangesOf general eastAsian)⟩ := by
  have hsurveyed : surveyed generalName eastAsianName general eastAsian =
      Width.all.map fun width => .surveyed (width.fileOf generalName eastAsianName)
        (rangesOf general eastAsian width).length width := by
    simp only [surveyed, length_rangesOf]
  rw [hsurveyed, ← inTurn_result, build, Source.survey_of_ok (Source.records_eq_ok hgeneral),
    Run.bind_of_ok rfl, Source.survey_of_ok (Source.records_eq_ok heastAsian), Run.bind_of_ok rfl]
  rfl

/-- A first file with a bad line ends the build before anything is logged. -/
theorem build_log_of_bad_general (eastAsian : Source) (h : HasBadLine general) :
    (build (.ofBytes generalName general) eastAsian).log = [] := by
  obtain ⟨fault, hfault⟩ := (Source.records_refused_iff generalName).2 h
  rw [build, Source.survey_of_error hfault, Run.bind_of_error rfl]

/-- A bad line in the second file ends the build after the survey of the first one. -/
theorem build_log_of_bad_eastAsian (hgeneral : ¬ HasBadLine general) (h : HasBadLine eastAsian) :
    (build (.ofBytes generalName general) (.ofBytes eastAsianName eastAsian)).log =
      (surveyed generalName eastAsianName general eastAsian).take 2 := by
  obtain ⟨fault, hfault⟩ := (Source.records_refused_iff eastAsianName).2 h
  rw [build, Source.survey_of_ok (Source.records_eq_ok hgeneral), Run.bind_of_ok rfl,
    Source.survey_of_error hfault, Run.bind_of_error rfl, List.append_nil]
  simp only [surveyed, ← length_rangesOf]
  rfl

theorem length_fullLog (generalName eastAsianName : String) (general eastAsian : List UInt8) :
    (fullLog generalName eastAsianName general eastAsian).length = 6 := rfl

/-! ## How a build ends -/

/-- The tables of a build are logged with their summaries. -/
theorem build_log_of_ok {tables : Tables}
    (h : (build (.ofBytes generalName general) (.ofBytes eastAsianName eastAsian)).result =
      .ok tables) :
    (build (.ofBytes generalName general) (.ofBytes eastAsianName eastAsian)).log =
        fullLog generalName eastAsianName general eastAsian ∧
      Width.all.map (tabled (rangesOf general eastAsian)) = tables.summaries.map .tabled := by
  obtain ⟨hgeneral, heastAsian, hmade⟩ := build_eq_ok h
  refine ⟨by rw [build_of_good hgeneral heastAsian, inTurn_log_of_ok hmade, fullLog], ?_⟩
  have htables := ofRanges?_eq_ok_iff.1 hmade
  simp only [summaries, List.map_map, Function.comp_def, (htables _).2]
  rfl

/-- A source is never refused for want of ranges. -/
theorem records_ne_emptyTable (name : String) (bytes : List UInt8) (width : Width) :
    (Source.ofBytes name bytes).records ≠ .error (.emptyTable width) := by
  intro h
  obtain ⟨before, line, -, hfault⟩ := Source.records_eq_error_iff.1 h
  cases hfault

/-- A build that is refused for a width has read both files, and made the tables before it. -/
theorem build_log_of_emptyTable
    (h : (build (.ofBytes generalName general) (.ofBytes eastAsianName eastAsian)).result =
      .error (.emptyTable width)) :
    rangesOf general eastAsian width = [] ∧
      ∃ before after, Width.all = before ++ width :: after ∧
        (build (.ofBytes generalName general) (.ofBytes eastAsianName eastAsian)).log =
          surveyed generalName eastAsianName general eastAsian ++
            before.map (tabled (rangesOf general eastAsian)) := by
  have hgeneral : ¬ HasBadLine general := by
    intro hbad
    exact records_ne_emptyTable _ _ _ ((build_eq_error_iff_of_bad_general hbad).1 h)
  have heastAsian : ¬ HasBadLine eastAsian := by
    intro hbad
    exact records_ne_emptyTable _ _ _ ((build_eq_error_iff_of_bad_eastAsian hgeneral hbad).1 h)
  rw [build_result_of_good hgeneral heastAsian] at h
  obtain ⟨before, width', after, hall, hbefore, hempty, hfault⟩ := ofRanges?_eq_error_iff.1 h
  cases hfault
  refine ⟨hempty, before, after, hall, ?_⟩
  rw [build_of_good hgeneral heastAsian, inTurn_log_of_error hall hbefore hempty]

/-- A build that fails has come upon a bad line of either file, or found a width without ranges. -/
theorem bad_or_emptyTable_of_error {fault : Fault}
    (h : (build (.ofBytes generalName general) (.ofBytes eastAsianName eastAsian)).result =
      .error fault) :
    HasBadLine general ∨ (¬ HasBadLine general ∧ HasBadLine eastAsian) ∨
      ∃ width, fault = .emptyTable width := by
  by_cases hgeneral : HasBadLine general
  · exact .inl hgeneral
  by_cases heastAsian : HasBadLine eastAsian
  · exact .inr (.inl ⟨hgeneral, heastAsian⟩)
  rw [build_result_of_good hgeneral heastAsian] at h
  obtain ⟨before, width, after, -, -, -, hfault⟩ := ofRanges?_eq_error_iff.1 h
  exact .inr (.inr ⟨width, hfault⟩)

/-- What a build that fails has logged is a part of the whole, and comes first in it. -/
theorem build_log_of_error {fault : Fault}
    (h : (build (.ofBytes generalName general) (.ofBytes eastAsianName eastAsian)).result =
      .error fault) :
    (build (.ofBytes generalName general) (.ofBytes eastAsianName eastAsian)).log <+:
        fullLog generalName eastAsianName general eastAsian ∧
      (build (.ofBytes generalName general) (.ofBytes eastAsianName eastAsian)).log.length <
        (fullLog generalName eastAsianName general eastAsian).length := by
  rcases bad_or_emptyTable_of_error h with hbad | ⟨hgeneral, hbad⟩ | ⟨width, rfl⟩
  · rw [build_log_of_bad_general _ hbad, length_fullLog]
    exact ⟨List.nil_prefix, by decide⟩
  · rw [build_log_of_bad_eastAsian hgeneral hbad, length_fullLog]
    exact ⟨(List.take_prefix _ _).trans (List.prefix_append _ _),
      Nat.lt_of_le_of_lt (List.length_take_le _ _) (by decide)⟩
  · obtain ⟨-, before, after, hall, hlog⟩ := build_log_of_emptyTable h
    rw [hlog, fullLog, hall, List.map_append, List.length_append, List.length_append]
    refine ⟨(List.prefix_append_right_inj _).2 (List.prefix_append _ _), ?_⟩
    simp

/-! ## Agreement -/

/-- What the log of a run has to do with its result, and with two files. -/
structure LogAgrees (generalName eastAsianName : String) (general eastAsian : List UInt8)
    (run : Run Tables) : Prop where
  /-- A run that succeeds logs all there is. -/
  complete : ∀ tables, run.result = .ok tables →
    run.log = fullLog generalName eastAsianName general eastAsian
  /-- Its lines are the counts of both files and the summaries of its tables. -/
  worded : ∀ tables, run.result = .ok tables →
    run.log.map (fun event => (event.level, event.message)) =
      (Width.all.map fun width => (.debug, width.fileOf generalName eastAsianName ++ ": " ++
        toString (classifiedLines general eastAsian width) ++ " raw ranges of " ++ width.name)) ++
      tables.summaries.map fun summary => (.info, summary.display)
  /-- Each of its tables has an entry, and no more of them than lines were counted. -/
  counted : ∀ tables, run.result = .ok tables → ∀ width, 1 ≤ (tables.get width).length ∧
    (tables.get width).length ≤ classifiedLines general eastAsian width
  /-- A run that fails logs what comes first, and not all. -/
  cut : ∀ fault, run.result = .error fault →
    run.log <+: fullLog generalName eastAsianName general eastAsian ∧
      run.log.length < (fullLog generalName eastAsianName general eastAsian).length
  /-- With a bad line in the first file it logs nothing. -/
  badGeneral : HasBadLine general → run.log = []
  /-- With bad lines in the second file only, it logs the two counts of the first one. -/
  badEastAsian : ¬ HasBadLine general → HasBadLine eastAsian →
    run.log = (fullLog generalName eastAsianName general eastAsian).take 2
  /-- For want of ranges it logs all counts, the one of that width being zero, and the tables that
  come before it. -/
  emptyTable : ∀ width, run.result = .error (.emptyTable width) →
    classifiedLines general eastAsian width = 0 ∧
      ∃ before after, [.invalid, .zero, .double] = before ++ width :: after ∧
        run.log = surveyed generalName eastAsianName general eastAsian ++
          before.map (tabled (rangesOf general eastAsian))

/-- **Log and result agree.** A build that succeeds logs the six events of its files, the last three
being the summaries of its tables, each with no more entries than lines were counted. One that fails
logs the first of these events: none, if the first file has a bad line; two, if only the second one
has; and otherwise all that come before the width for which there are no ranges. -/
theorem build_log_agrees (generalName eastAsianName : String) (general eastAsian : List UInt8) :
    LogAgrees generalName eastAsianName general eastAsian
      (build (.ofBytes generalName general) (.ofBytes eastAsianName eastAsian)) := by
  constructor
  case complete =>
    intro tables h
    exact (build_log_of_ok h).1
  case worded =>
    intro tables h
    obtain ⟨hlog, hsummaries⟩ := build_log_of_ok h
    rw [hlog, fullLog, hsummaries, surveyed, List.map_append, List.map_map, List.map_map]
    rfl
  case counted =>
    intro tables h width
    obtain ⟨-, -, hmade⟩ := build_eq_ok h
    obtain ⟨hne, htable⟩ := ofRanges?_eq_ok_iff.1 hmade width
    rw [htable, ← length_rangesOf]
    exact ⟨List.length_pos_iff.2 (coalesce_ne_nil_iff.2 hne), length_coalesce_le _⟩
  case cut =>
    intro fault
    exact build_log_of_error
  case badGeneral => exact build_log_of_bad_general _
  case badEastAsian => exact build_log_of_bad_eastAsian
  case emptyTable =>
    intro width h
    obtain ⟨hempty, before, after, hall, hlog⟩ := build_log_of_emptyTable h
    refine ⟨?_, before, after, hall, hlog⟩
    rw [← length_rangesOf, hempty, List.length_nil]

/-- Two lines make one table; no line is classified to the next width; and the last table is never
made, though there is a line for it. -/
theorem build_log_agrees_of_files :
    (build (.ofBytes "gc" (Text.Utf8.encode "0379;Cn\n0378;Cn\n0041;Lu\n"))
        (.ofBytes "eaw" (Text.Utf8.encode "3000;F\n"))).log =
      [.surveyed "gc" 2 .invalid, .surveyed "gc" 0 .zero, .surveyed "eaw" 1 .double,
        .tabled ⟨.invalid, 1, 2⟩] ∧
    classifiedLines (Text.Utf8.encode "0379;Cn\n0378;Cn\n0041;Lu\n")
      (Text.Utf8.encode "3000;F\n") .zero = 0 ∧
    [.surveyed "gc" 2 .invalid, .surveyed "gc" 0 .zero, .surveyed "eaw" 1 .double,
        .tabled ⟨.invalid, 1, 2⟩] <+:
      fullLog "gc" "eaw" (Text.Utf8.encode "0379;Cn\n0378;Cn\n0041;Lu\n")
        (Text.Utf8.encode "3000;F\n") := by
  have hagrees := build_log_agrees "gc" "eaw"
    (Text.Utf8.encode "0379;Cn\n0378;Cn\n0041;Lu\n") (Text.Utf8.encode "3000;F\n")
  have hbuild : build (.ofBytes "gc" (Text.Utf8.encode "0379;Cn\n0378;Cn\n0041;Lu\n"))
      (.ofBytes "eaw" (Text.Utf8.encode "3000;F\n")) =
      ⟨[.surveyed "gc" 2 .invalid, .surveyed "gc" 0 .zero, .surveyed "eaw" 1 .double,
        .tabled ⟨.invalid, 1, 2⟩], .error (.emptyTable .zero)⟩ := by cbv
  rw [hbuild] at hagrees ⊢
  exact ⟨rfl, (hagrees.emptyTable _ rfl).1, (hagrees.cut _ rfl).1⟩

end Files

end Tables

end CellWidth
