import CellWidth.Proofs.Listing.Rendering
import CellWidth.Proofs.Table.Merging
import CellWidth.Proofs.Tables.Building

/-!
# What the check lets through

The check looks at neighbours and the making of tables joins ranges, each in its own way. They
agree: a list passes the check if it is the table that its entries make.

* `Table.Settled width ranges` : the ranges are such a list.
* `Table.check_eq_ok_iff_settled` : the check accepts these and no others.
* `Tables.check_of_build` : it accepts what is built.
* `render?_accepts_settled` : so listings hold such tables only, and what is built can be listed.
-/

namespace CellWidth

namespace Table

/-- There are ranges, and the table that they make is the list itself. -/
def Settled (width : Width) (ranges : List CodeRange) : Prop :=
  ranges ≠ [] ∧ ofRanges? width ranges = .ok ranges

variable {width : Width} {ranges table : List CodeRange}

theorem check_eq_ok_iff_settled : check width ranges = .ok () ↔ Settled width ranges := by
  rw [check_eq_ok_iff, Settled, ofRanges?_eq_ok_iff, coalesce_eq_self_iff, and_self_left]

/-- What is made passes the check. -/
theorem check_of_ofRanges? (h : ofRanges? width ranges = .ok table) :
    check width table = .ok () := by
  rcases ofRanges?_eq_ok_iff.1 h with ⟨hne, rfl⟩
  exact check_eq_ok_iff.2 ⟨coalesce_ne_nil_iff.2 hne, canonical_coalesce ranges⟩

end Table

namespace Tables

/-- Each table that is built is made of some ranges. -/
theorem exists_ofRanges?_of_build {general eastAsian : Source} {tables : Tables}
    (h : (build general eastAsian).result = .ok tables) (width : Width) :
    ∃ ranges, Table.ofRanges? width ranges = .ok (tables.get width) := by
  rcases exists_records_of_build h with ⟨records, -, hmade⟩
  rcases hmade width with ⟨hne, htable⟩
  exact ⟨_, Table.ofRanges?_eq_ok_iff.2 ⟨hne, htable.symm⟩⟩

/-- What is built passes the check. -/
theorem check_of_build {general eastAsian : Source} {tables : Tables}
    (h : (build general eastAsian).result = .ok tables) (width : Width) :
    Table.check width (tables.get width) = .ok () := by
  rcases exists_ofRanges?_of_build h width with ⟨ranges, hmade⟩
  exact Table.check_of_ofRanges? hmade

end Tables

namespace Listing

/-- **What can be written.** There is a listing of three lists exactly if each of them is the table
that its entries make; the fault of the first that is not is reported. What is made of ranges
passes the check, and so whatever is built can be written in every dialect. -/
theorem render?_accepts_settled :
    (∀ (dialect : Dialect) (tables : Tables),
      ((∃ written, render? dialect tables = .ok written) ↔
        ∀ width, Table.Settled width (tables.get width)) ∧
      ∀ fault, render? dialect tables = .error fault ↔
        ∃ before width after, [.invalid, .zero, .double] = before ++ width :: after ∧
          (∀ earlier ∈ before, Table.Settled earlier (tables.get earlier)) ∧
          ¬ Table.Settled width (tables.get width) ∧
          Table.check width (tables.get width) = .error fault) ∧
    (∀ (width : Width) (ranges : List CodeRange), ranges ≠ [] →
      ∃ table, Table.ofRanges? width ranges = .ok table ∧ Table.check width table = .ok ()) ∧
    ∀ (general eastAsian : Source) (tables : Tables),
      (Tables.build general eastAsian).result = .ok tables →
        ∀ dialect, ∃ written, render? dialect tables = .ok written := by
  refine ⟨fun dialect tables => ⟨?_, fun fault => ?_⟩, ?_, ?_⟩
  · simp only [exists_render?_eq_ok_iff, Table.check_eq_ok_iff_settled]
  · have hunsettled (width : Width) (h : Table.check width (tables.get width) = .error fault) :
        ¬ Table.Settled width (tables.get width) := by
      intro hsettled
      rw [Table.check_eq_ok_iff_settled.2 hsettled] at h
      cases h
    simp only [render?_eq_error_iff, Table.check_eq_ok_iff_settled]
    constructor
    · intro hfirst
      rcases hfirst with ⟨before, width, after, hall, hbefore, hcheck⟩
      exact ⟨before, width, after, hall, hbefore, hunsettled width hcheck, hcheck⟩
    · intro hfirst
      rcases hfirst with ⟨before, width, after, hall, hbefore, -, hcheck⟩
      exact ⟨before, width, after, hall, hbefore, hcheck⟩
  · intro width ranges hne
    have hmade : Table.ofRanges? width ranges = .ok (coalesce ranges) :=
      Table.ofRanges?_eq_ok_iff.2 ⟨hne, rfl⟩
    exact ⟨coalesce ranges, hmade, Table.check_of_ofRanges? hmade⟩
  · intro general eastAsian tables h dialect
    exact exists_render?_eq_ok_iff.2 (Tables.check_of_build h)

/-- Two entries that abut are no table, though they stand in order: their width is reported, and
not the one behind it, which has no entries. Joined they are one, and so they are when built. -/
theorem render?_accepts_settled_of_files :
    render? .c ⟨[⟨0, 2, by decide, by decide⟩],
        [⟨0, 2, by decide, by decide⟩, ⟨3, 0xFFFFFFFF, by decide, by decide⟩], []⟩ =
      .error (.unordered .zero 1) ∧
    (∃ table, Table.ofRanges? .zero
        [⟨0, 2, by decide, by decide⟩, ⟨3, 0xFFFFFFFF, by decide, by decide⟩] = .ok table ∧
      Table.check .zero table = .ok ()) ∧
    ∃ tables, (Tables.build (.ofBytes "gc" (Text.Utf8.encode "0379;Cn\n0378;Cn\n0300;Mn\n"))
        (.ofBytes "eaw" (Text.Utf8.encode "3000;F\n"))).result = .ok tables ∧
      ∀ dialect, ∃ written, render? dialect tables = .ok written := by
  rcases render?_accepts_settled with ⟨hgate, hmade, hbuilt⟩
  refine ⟨?_, hmade .zero _ (List.cons_ne_nil _ _), ?_⟩
  · refine ((hgate _ _).2 _).2 ⟨[.invalid], .zero, [.double], rfl, ?_, ?_, rfl⟩
    · intro earlier hearlier
      rw [List.mem_singleton.1 hearlier]
      exact Table.check_eq_ok_iff_settled.1 rfl
    · intro hsettled
      cases Table.check_eq_ok_iff_settled.2 hsettled
  · have hbuild : (Tables.build
        (.ofBytes "gc" (Text.Utf8.encode "0379;Cn\n0378;Cn\n0300;Mn\n"))
        (.ofBytes "eaw" (Text.Utf8.encode "3000;F\n"))).result =
        .ok ⟨[⟨0x378, 0x379, by decide, by decide⟩], [⟨0x300, 0x300, by decide, by decide⟩],
          [⟨0x3000, 0x3000, by decide, by decide⟩]⟩ := by cbv
    exact ⟨_, hbuild, hbuilt _ _ _ hbuild⟩

end Listing

end CellWidth
