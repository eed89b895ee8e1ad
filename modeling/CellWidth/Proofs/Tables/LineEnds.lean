import Mathlib
import CellWidth.Tables
import CellWidth.Proofs.Source.LineEnds

/-!
# Tables do not depend on how lines end

* `build_congr` : a build knows of its sources their names and what their lines say.
* `build_eq_of_endEdits` : so it is the same, with its log, for files whose lines end otherwise.
-/

namespace CellWidth

open Text (EndEdit carriageReturn newline)

/-- A survey knows of its source the name and what the lines say. -/
theorem Source.survey_congr {source source' : Source} (hname : source.name = source'.name)
    (hrecords : source.records = source'.records) (property : Property) :
    source.survey property = source'.survey property := by
  simp only [survey, hname, hrecords]

/-- A source says the same after any sequence of edits of its line ends, made or taken back. -/
theorem Source.records_eq_of_endEdits {bytes bytes' : List UInt8} (name : String)
    (h : Relation.EqvGen EndEdit bytes bytes') :
    (ofBytes name bytes).records = (ofBytes name bytes').records := by
  induction h with
  | rel bytes bytes' hedit => exact records_eq_of_endEdit name hedit
  | refl bytes => rfl
  | symm bytes bytes' _ ih => exact ih.symm
  | trans bytes bytes' bytes'' _ _ ih ih' => exact ih.trans ih'

namespace Tables

theorem build_congr {general general' eastAsian eastAsian' : Source}
    (hgeneralName : general.name = general'.name) (hgeneral : general.records = general'.records)
    (heastAsianName : eastAsian.name = eastAsian'.name)
    (heastAsian : eastAsian.records = eastAsian'.records) :
    build general eastAsian = build general' eastAsian' := by
  simp only [build, Source.survey_congr hgeneralName hgeneral,
    Source.survey_congr heastAsianName heastAsian]

/-- **Line ends.** It does not matter which newlines of a file have a carriage return in front of
them, nor whether the last line is ended: the tables, or the fault with all that it names, and the
log are the same. -/
theorem build_eq_of_endEdits (generalName eastAsianName : String)
    {general general' eastAsian eastAsian' : List UInt8}
    (hgeneral : Relation.EqvGen EndEdit general general')
    (heastAsian : Relation.EqvGen EndEdit eastAsian eastAsian') :
    build (.ofBytes generalName general) (.ofBytes eastAsianName eastAsian) =
      build (.ofBytes generalName general') (.ofBytes eastAsianName eastAsian') := by
  have hcategories := Source.records_eq_of_endEdits generalName hgeneral
  have hwidths := Source.records_eq_of_endEdits eastAsianName heastAsian
  exact build_congr rfl hcategories rfl hwidths

/-- A second carriage return in front of one newline, and a bad last line that is ended: it is still
the second line, and its text is the same. -/
theorem build_eq_of_endEdits_of_files :
    Relation.EqvGen EndEdit
      (Text.Utf8.encode "0378;Cn\r" ++ newline :: Text.Utf8.encode "0300;Mn\n")
      (Text.Utf8.encode "0378;Cn\r" ++
        carriageReturn :: newline :: Text.Utf8.encode "0300;Mn\n") ∧
    Relation.EqvGen EndEdit (Text.Utf8.encode "3000;F\n30ZZ;W\r")
      (Text.Utf8.encode "3000;F\n30ZZ;W\r" ++ [newline]) ∧
    build (.ofBytes "gc" (Text.Utf8.encode "0378;Cn\r" ++ newline :: Text.Utf8.encode "0300;Mn\n"))
        (.ofBytes "eaw" (Text.Utf8.encode "3000;F\n30ZZ;W\r")) =
      build (.ofBytes "gc" (Text.Utf8.encode "0378;Cn\r" ++
          carriageReturn :: newline :: Text.Utf8.encode "0300;Mn\n"))
        (.ofBytes "eaw" (Text.Utf8.encode "3000;F\n30ZZ;W\r" ++ [newline])) ∧
    (build (.ofBytes "gc" (Text.Utf8.encode "0378;Cn\r" ++ newline :: Text.Utf8.encode "0300;Mn\n"))
        (.ofBytes "eaw" (Text.Utf8.encode "3000;F\n30ZZ;W\r"))).result =
      .error (.malformed "eaw" 2 "30ZZ;W" (.badCode "30ZZ")) := by
  have hgeneral : Relation.EqvGen EndEdit
      (Text.Utf8.encode "0378;Cn\r" ++ newline :: Text.Utf8.encode "0300;Mn\n")
      (Text.Utf8.encode "0378;Cn\r" ++
        carriageReturn :: newline :: Text.Utf8.encode "0300;Mn\n") :=
    .rel _ _ (.returns (.append_left _ (.pair (.refl _))))
  have heastAsian : Relation.EqvGen EndEdit (Text.Utf8.encode "3000;F\n30ZZ;W\r")
      (Text.Utf8.encode "3000;F\n30ZZ;W\r" ++ [newline]) := by
    have hlast : (Text.Utf8.encode "3000;F\n30ZZ;W\r").getLast? = some carriageReturn := by cbv
    refine .rel _ _ (.endLast ?_)
    rw [hlast]
    decide
  exact ⟨hgeneral, heastAsian, build_eq_of_endEdits "gc" "eaw" hgeneral heastAsian, by cbv⟩

end Tables

end CellWidth
