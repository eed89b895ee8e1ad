import CellWidth.Proofs.Listing.Gate
import CellWidth.Proofs.Record.Grammar
import CellWidth.Proofs.Table.Bounds

/-!
# What files can bring into tables

A data line names no code point beyond the last one, and coalescing reaches no further than the
ranges did. That bounds the tables of a build more narrowly than the code values do.

* `Source.stop_le_last` : how far the records of a source reach.
* `Tables.FitAt tables width` : the bounds of a table of a build (`Tables.fitAt_of_build`).
-/

namespace CellWidth

open CodeRange (totalSize)

variable {general eastAsian : Source} {tables : Tables} {width : Width} {r : CodeRange}

/-- The records of a source reach no further than the last code point. -/
theorem Source.stop_le_last {source : Source} {records : List Record} {record : Record}
    (h : source.records = .ok records) (hmem : record ∈ records) :
    record.range.stop ≤ lastCodepoint := by
  rcases exists_bytes_of_records h with ⟨bytes, -, -, rfl⟩
  rcases mem_filterMap_recordOf?_iff.1 hmem with ⟨-, -, text, -, -, hread⟩
  exact (Record.ofLine?_eq_ok_some_iff.1 hread).stop_le_last

theorem Property.exists_record_of_mem_rangesOf {property : Property} {records : List Record}
    (h : r ∈ property.rangesOf width records) : ∃ record ∈ records, record.range = r := by
  rcases List.mem_filterMap.1 h with ⟨record, hmem, hif⟩
  have hrange : some record.range = some r := (Option.ite_none_right_eq_some.1 hif).2
  exact ⟨record, hmem, Option.some.inj hrange⟩

namespace Tables

/-- The bounds of a table of a build. -/
structure FitAt (tables : Tables) (width : Width) : Prop where
  counts : Summary.Fits width (tables.get width)
  stop_le : ∀ r ∈ tables.get width, r.stop ≤ 0x10FFFF
  codepoints_le : (Summary.ofRanges width (tables.get width)).codepoints +
    (Summary.ofRanges width (tables.get width)).entries - 1 ≤ 0x110000
  entries_le : (Summary.ofRanges width (tables.get width)).entries ≤ 0x88000

theorem stop_le_last_of_build (h : (build general eastAsian).result = .ok tables)
    (hr : r ∈ tables.get width) : r.stop ≤ lastCodepoint := by
  rcases exists_records_of_build h with ⟨records, hread, hmade⟩
  rw [(hmade width).2] at hr
  refine stop_le_of_mem_coalesce (fun s hs => ?_) hr
  rcases Property.exists_record_of_mem_rangesOf hs with ⟨record, hmem, rfl⟩
  exact Source.stop_le_last (hread width) hmem

theorem fitAt_of_build (h : (build general eastAsian).result = .ok tables) (width : Width) :
    tables.FitAt width := by
  have hcheck := check_of_build h width
  have hlast : ∀ r ∈ tables.get width, r.stop ≤ 0x10FFFF := fun r => stop_le_last_of_build h
  have hroom := (Table.check_eq_ok_iff.1 hcheck).2.totalSize_add_length_le hlast
  have hlength := length_le_totalSize (tables.get width)
  have hcodepoints : totalSize (tables.get width) + (tables.get width).length - 1 ≤ 0x110000 := by
    omega
  have hentries : (tables.get width).length ≤ 0x88000 := by omega
  exact ⟨Summary.fits_of_check hcheck, hlast, hcodepoints, hentries⟩

end Tables

end CellWidth
