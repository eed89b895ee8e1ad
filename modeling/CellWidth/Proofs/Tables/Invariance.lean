import Mathlib.Logic.Relation
import CellWidth.Listing
import CellWidth.Proofs.Table.Merging
import CellWidth.Proofs.Tables.Building

/-!
# What the tables do not depend on

The order of the lines, repeated lines, the cut of a range into records and lines without a width
do not matter: the tables depend on which code values each width gets, and on nothing else.

* `Edit property` : one change to the lines of a file that leaves what they assign.
* `build_eq_of_same_assigned` : files without bad lines that assign the same code values, or whose
  lines differ by edits, are built to the same result and the same listings.
-/

namespace CellWidth

open Text (LineAt lines newline)

namespace Tables

/-- Lists that cover the same code values for every width make the same tables. -/
theorem ofRanges?_congr {ranges ranges' : Width → List CodeRange}
    (h : ∀ width c, Covers (ranges width) c ↔ Covers (ranges' width) c) :
    ofRanges? ranges = ofRanges? ranges' := by
  have hmade (width : Width) :
      Table.ofRanges? width (ranges width) = Table.ofRanges? width (ranges' width) :=
    Table.ofRanges?_congr (h width)
  simp only [ofRanges?, hmade]

/-- Two pairs of sources are built to the same result, and to the same text in each dialect. -/
def SameBuild (general eastAsian general' eastAsian' : Source) : Prop :=
  (build general eastAsian).result = (build general' eastAsian').result ∧
    ∀ dialect, ((build general eastAsian).result >>= Listing.render? dialect) =
      ((build general' eastAsian').result >>= Listing.render? dialect)

end Tables

/-! ## Edits -/

section Edits

variable {property : Property} {line : List UInt8} {ls ls' : List (List UInt8)}

/-- The line can be read, and nothing in it has a width. -/
def IdleLine (property : Property) (line : List UInt8) : Prop :=
  ¬ BadLine line ∧ ∀ record, recordOf? line = some record → property.classOf? record.label = none

/-- The lines are records of the same width as the record of the line, and together they cover its
range. -/
def CutInto (property : Property) (line : List UInt8) (pieces : List (List UInt8)) : Prop :=
  ∃ record, recordOf? line = some record ∧
    (∀ piece ∈ pieces, ∃ part, recordOf? piece = some part ∧
      property.classOf? part.label = property.classOf? record.label) ∧
    ∀ c, c ∈ record.range ↔ ∃ piece ∈ pieces, ∃ part, recordOf? piece = some part ∧ c ∈ part.range

/-- One change to the lines of a property file that leaves what they assign. -/
inductive Edit (property : Property) : (ls ls' : List (List UInt8)) → Prop
  /-- The lines come in another order. -/
  | permute {ls ls' : List (List UInt8)} : ls.Perm ls' → Edit property ls ls'
  /-- A line comes once more. -/
  | repeatLine {line : List UInt8} {ls : List (List UInt8)} : line ∈ ls →
      Edit property ls (line :: ls)
  /-- A blank line, a comment or a record without a width is put in. -/
  | insertIdle {line : List UInt8} {ls : List (List UInt8)} : IdleLine property line →
      Edit property ls (line :: ls)
  /-- A record is cut into records. -/
  | cut {line : List UInt8} {pieces ls : List (List UInt8)} : CutInto property line pieces →
      Edit property (line :: ls) (pieces ++ ls)

/-- The line assigns the code value to the width. -/
def LineAssigns (property : Property) (line : List UInt8) (width : Width) (c : Nat) : Prop :=
  ∃ record, recordOf? line = some record ∧ property.classOf? record.label = some width ∧
    c ∈ record.range

/-- One of the lines assigns the code value to the width. -/
def LinesAssign (property : Property) (ls : List (List UInt8)) (width : Width) (c : Nat) : Prop :=
  ∃ line ∈ ls, LineAssigns property line width c

/-- The lines agree on whether one of them is bad, and on what they assign. -/
def Agree (property : Property) (ls ls' : List (List UInt8)) : Prop :=
  ((∀ line ∈ ls, ¬ BadLine line) ↔ ∀ line ∈ ls', ¬ BadLine line) ∧
    ∀ width c, LinesAssign property ls width c ↔ LinesAssign property ls' width c

theorem not_badLine_of_recordOf? {record : Record} (h : recordOf? line = some record) :
    ¬ BadLine line := by
  rcases recordOf?_eq_some_iff.1 h with ⟨text, htext, hread⟩
  intro hbad
  rcases hbad with hnone | ⟨text', reason, htext', hread'⟩
  · rw [htext] at hnone
    cases hnone
  · rw [htext] at htext'
    cases htext'
    rw [hread] at hread'
    cases hread'

variable {width : Width} {c : Nat}

theorem linesAssign_cons : LinesAssign property (line :: ls) width c ↔
    LineAssigns property line width c ∨ LinesAssign property ls width c := by
  simp only [LinesAssign, List.mem_cons, exists_eq_or_imp]

theorem linesAssign_append : LinesAssign property (ls ++ ls') width c ↔
    LinesAssign property ls width c ∨ LinesAssign property ls' width c := by
  simp only [LinesAssign, List.mem_append, or_and_right, exists_or]

/-- The pieces of a record assign what the record does. -/
theorem CutInto.linesAssign_iff {pieces : List (List UInt8)} (h : CutInto property line pieces) :
    LinesAssign property pieces width c ↔ LineAssigns property line width c := by
  rcases h with ⟨record, hrecord, hpieces, hrange⟩
  constructor
  · intro hassigns
    rcases hassigns with ⟨piece, hpiece, part, hpart, hclass, hc⟩
    rcases hpieces piece hpiece with ⟨part', hpart', hsame⟩
    cases hpart.symm.trans hpart'
    exact ⟨record, hrecord, hsame.symm.trans hclass, (hrange c).2 ⟨piece, hpiece, part, hpart, hc⟩⟩
  · intro hassigns
    rcases hassigns with ⟨record', hrecord', hclass, hc⟩
    cases hrecord.symm.trans hrecord'
    rcases (hrange c).1 hc with ⟨piece, hpiece, part, hpart, hc⟩
    rcases hpieces piece hpiece with ⟨part', hpart', hsame⟩
    cases hpart.symm.trans hpart'
    exact ⟨piece, hpiece, part, hpart, hsame.trans hclass, hc⟩

/-- An edit leaves what the lines assign, and neither brings nor takes a bad line. -/
theorem Edit.agree (h : Edit property ls ls') : Agree property ls ls' := by
  cases h with
  | permute hperm =>
    -- only which lines there are matters, and this a permutation leaves
    exact ⟨by simp only [hperm.mem_iff], fun width c => by simp only [LinesAssign, hperm.mem_iff]⟩
  | @repeatLine line ls hmem =>
    refine ⟨?_, fun width c => ?_⟩
    · rw [List.forall_mem_cons]
      exact ⟨fun h => ⟨h _ hmem, h⟩, fun h => h.2⟩
    · rw [linesAssign_cons]
      exact ⟨.inr, fun h => h.elim (fun hline => ⟨line, hmem, hline⟩) id⟩
  | insertIdle hidle =>
    refine ⟨?_, fun width c => ?_⟩
    · rw [List.forall_mem_cons]
      exact ⟨fun h => ⟨hidle.1, h⟩, fun h => h.2⟩
    · rw [linesAssign_cons]
      refine ⟨.inr, ?_⟩
      -- the new line assigns nothing
      intro hline
      rcases hline with ⟨record, hrecord, hclass, -⟩ | h
      · rw [hidle.2 record hrecord] at hclass
        cases hclass
      · exact h
  | cut hcut =>
    refine ⟨?_, fun width c => ?_⟩
    · -- neither a record nor a piece of it is bad
      rcases hcut with ⟨record, hrecord, hpieces, -⟩
      rw [List.forall_mem_cons, List.forall_mem_append]
      refine and_congr_left fun _ => ⟨fun _ piece hpiece => ?_, fun _ => ?_⟩
      · rcases hpieces piece hpiece with ⟨part, hpart, -⟩
        exact not_badLine_of_recordOf? hpart
      · exact not_badLine_of_recordOf? hrecord
    · rw [linesAssign_cons, linesAssign_append, hcut.linesAssign_iff]

/-- So does any sequence of edits, made or taken back. -/
theorem agree_of_edits (h : Relation.EqvGen (Edit property) ls ls') : Agree property ls ls' := by
  induction h with
  | rel ls ls' hedit => exact hedit.agree
  | refl ls => exact ⟨Iff.rfl, fun _ _ => Iff.rfl⟩
  | symm ls ls' _ ih => exact ⟨ih.1.symm, fun width c => (ih.2 width c).symm⟩
  | trans ls ls' ls'' _ _ ih ih' =>
    exact ⟨ih.1.trans ih'.1, fun width c => (ih.2 width c).trans (ih'.2 width c)⟩

end Edits

/-! ## Files -/

namespace Tables

variable {general eastAsian general' eastAsian' : List UInt8}

/-- The ranges of a width cover what the lines of its file assign to it. -/
theorem covers_rangesOf_iff_linesAssign {width : Width} {c : Nat} :
    Covers (rangesOf general eastAsian width) c ↔
      LinesAssign width.property (lines (width.fileOf general eastAsian)) width c := by
  simp only [rangesOf, Property.rangesOf]
  constructor
  · intro hcovers
    rcases hcovers with ⟨r, hr, hc⟩
    rcases List.mem_filterMap.1 hr with ⟨record, hrecord, hclass⟩
    rcases List.mem_filterMap.1 hrecord with ⟨line, hline, hread⟩
    rw [Option.ite_none_right_eq_some, Option.some.injEq] at hclass
    rcases hclass with ⟨hclass, rfl⟩
    exact ⟨line, hline, record, hread, hclass, hc⟩
  · intro hassigns
    rcases hassigns with ⟨line, hline, record, hread, hclass, hc⟩
    refine ⟨record.range, List.mem_filterMap.2 ⟨record, ?_, if_pos hclass⟩, hc⟩
    exact List.mem_filterMap.2 ⟨line, hline, hread⟩

/-- Files without bad lines are built by what their ranges cover. -/
theorem sameBuild_of_covers (generalName eastAsianName generalName' eastAsianName' : String)
    (hgeneral : ¬ HasBadLine general) (heastAsian : ¬ HasBadLine eastAsian)
    (hgeneral' : ¬ HasBadLine general') (heastAsian' : ¬ HasBadLine eastAsian')
    (h : ∀ width c, Covers (rangesOf general eastAsian width) c ↔
      Covers (rangesOf general' eastAsian' width) c) :
    SameBuild (.ofBytes generalName general) (.ofBytes eastAsianName eastAsian)
      (.ofBytes generalName' general') (.ofBytes eastAsianName' eastAsian') := by
  have hresult : (build (.ofBytes generalName general) (.ofBytes eastAsianName eastAsian)).result =
      (build (.ofBytes generalName' general') (.ofBytes eastAsianName' eastAsian')).result := by
    rw [build_result_of_good hgeneral heastAsian, build_result_of_good hgeneral' heastAsian',
      ofRanges?_congr h]
  exact ⟨hresult, fun dialect => by rw [hresult]⟩

/-- **What the tables depend on.** Files without bad lines that assign the same code values to each
width are built to the same tables or to the same missing width, whatever they are called and
however they say it; so are files whose lines differ by edits. -/
theorem build_eq_of_same_assigned (generalName eastAsianName generalName' eastAsianName' : String)
    (general eastAsian general' eastAsian' : List UInt8)
    (hgeneral : ¬ HasBadLine general) (heastAsian : ¬ HasBadLine eastAsian) :
    (¬ HasBadLine general' → ¬ HasBadLine eastAsian' →
      (∀ (width : Width) (c : Nat), Assigns (width.fileOf general eastAsian) width.labels c ↔
        Assigns (width.fileOf general' eastAsian') width.labels c) →
      SameBuild (.ofBytes generalName general) (.ofBytes eastAsianName eastAsian)
        (.ofBytes generalName' general') (.ofBytes eastAsianName' eastAsian')) ∧
    (Relation.EqvGen (Edit .generalCategory) (lines general) (lines general') →
      Relation.EqvGen (Edit .eastAsianWidth) (lines eastAsian) (lines eastAsian') →
      SameBuild (.ofBytes generalName general) (.ofBytes eastAsianName eastAsian)
        (.ofBytes generalName' general') (.ofBytes eastAsianName' eastAsian')) := by
  constructor
  · intro hgeneral' heastAsian' h
    refine sameBuild_of_covers _ _ _ _ hgeneral heastAsian hgeneral' heastAsian' fun width c => ?_
    rw [covers_rangesOf_iff, covers_rangesOf_iff, h]
  · intro hedits hedits'
    have hagree := agree_of_edits hedits
    have hagree' := agree_of_edits hedits'
    have hgeneral' : ¬ HasBadLine general' :=
      not_hasBadLine_iff.2 (hagree.1.1 (not_hasBadLine_iff.1 hgeneral))
    have heastAsian' : ¬ HasBadLine eastAsian' :=
      not_hasBadLine_iff.2 (hagree'.1.1 (not_hasBadLine_iff.1 heastAsian))
    refine sameBuild_of_covers _ _ _ _ hgeneral heastAsian hgeneral' heastAsian' fun width c => ?_
    rw [covers_rangesOf_iff_linesAssign, covers_rangesOf_iff_linesAssign]
    -- each width has its lines from one file
    cases width with
    | invalid => exact hagree.2 .invalid c
    | zero => exact hagree.2 .zero c
    | double => exact hagree'.2 .double c

/-- A range in two overlapping records behind a comment, and the same lines in another order. -/
theorem build_eq_of_same_assigned_of_files :
    SameBuild (.ofBytes "gc" (Text.Utf8.encode "0378..0379;Cn\n0300;Mn"))
        (.ofBytes "eaw" (Text.Utf8.encode "3000;F"))
        (.ofBytes "a" (Text.Utf8.encode "# Cn\r\n0379;Cn\n0300;Mn\n0378..0379;Cn\n"))
        (.ofBytes "b" (Text.Utf8.encode "3000;W\n3000;F")) ∧
      SameBuild (.ofBytes "gc" (Text.Utf8.encode "0378..0379;Cn\n0300;Mn"))
        (.ofBytes "eaw" (Text.Utf8.encode "3000;F"))
        (.ofBytes "gc" (Text.Utf8.encode "0300;Mn\n0378..0379;Cn"))
        (.ofBytes "eaw" (Text.Utf8.encode "3000;F")) := by
  have hbuild : (build (.ofBytes "gc" (Text.Utf8.encode "0378..0379;Cn\n0300;Mn"))
      (.ofBytes "eaw" (Text.Utf8.encode "3000;F"))).result =
      .ok ⟨[⟨0x378, 0x379, by decide, by decide⟩], [⟨0x300, 0x300, by decide, by decide⟩],
        [⟨0x3000, 0x3000, by decide, by decide⟩]⟩ := by cbv
  have hbuild' : (build
      (.ofBytes "a" (Text.Utf8.encode "# Cn\r\n0379;Cn\n0300;Mn\n0378..0379;Cn\n"))
      (.ofBytes "b" (Text.Utf8.encode "3000;W\n3000;F"))).result =
      .ok ⟨[⟨0x378, 0x379, by decide, by decide⟩], [⟨0x300, 0x300, by decide, by decide⟩],
        [⟨0x3000, 0x3000, by decide, by decide⟩]⟩ := by cbv
  rcases build_eq_ok hbuild with ⟨hgeneral, heastAsian, hmade⟩
  rcases build_eq_ok hbuild' with ⟨hgeneral', heastAsian', hmade'⟩
  constructor
  · refine (build_eq_of_same_assigned _ _ _ _ _ _ _ _ hgeneral heastAsian).1 hgeneral' heastAsian'
      fun width c => ?_
    rw [← covers_rangesOf_iff, ← covers_rangesOf_iff, ← covers_coalesce,
      ← (ofRanges?_eq_ok_iff.1 hmade width).2, ← covers_coalesce (rangesOf _ _ _),
      ← (ofRanges?_eq_ok_iff.1 hmade' width).2]
  · refine (build_eq_of_same_assigned _ _ _ _ _ _ _ _ hgeneral heastAsian).2
      (.rel _ _ (.permute ?_)) (.refl _)
    have hlines : lines (Text.Utf8.encode "0378..0379;Cn\n0300;Mn") =
        [Text.Utf8.encode "0378..0379;Cn", Text.Utf8.encode "0300;Mn"] := by cbv
    have hlines' : lines (Text.Utf8.encode "0300;Mn\n0378..0379;Cn") =
        [Text.Utf8.encode "0300;Mn", Text.Utf8.encode "0378..0379;Cn"] := by cbv
    rw [hlines, hlines']
    exact .swap _ _ _

end Tables

end CellWidth
