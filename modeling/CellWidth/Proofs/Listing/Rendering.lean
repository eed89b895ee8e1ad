import CellWidth.Listing
import CellWidth.Proofs.Source.Reading

/-!
# Which tables are written

`Listing.render?` writes the three tables in the order of `Width.all`, and none of them unless all
pass the check.

* `eq_of_render?_eq_ok` : what a file consists of.
* `exists_render?_eq_ok_iff`, `render?_eq_error_iff` : when there is one, and which fault is
  reported otherwise.
* `dialect_eq_of_render?_eq_ok` : a file tells its dialect.
-/

namespace CellWidth.Listing

variable {d : Dialect} {tables : Tables} {width : Width} {written : String} {fault : Fault}

theorem section?_eq_ok (h : section? d tables width = .ok written) :
    written = "\n" ++ table d width (tables.get width) := by
  unfold section? at h
  split at h
  · cases h
  · exact (Except.ok.inj h).symm

theorem exists_section?_eq_ok_iff : (∃ written, section? d tables width = .ok written) ↔
    Table.check width (tables.get width) = .ok () := by
  unfold section?
  cases Table.check width (tables.get width) <;> simp

theorem section?_eq_error_iff : section? d tables width = .error fault ↔
    Table.check width (tables.get width) = .error fault := by
  unfold section?
  cases Table.check width (tables.get width) <;> simp

/-- There is a file exactly if every table passes the check. -/
theorem exists_render?_eq_ok_iff :
    (∃ written, render? d tables = .ok written) ↔
      ∀ width, Table.check width (tables.get width) = .ok () := by
  have hsections : (∃ written, render? d tables = .ok written) ↔
      ∃ sections, Width.all.mapM (section? d tables) = .ok sections := by
    rw [render?]
    cases Width.all.mapM (section? d tables) <;> simp [bind, Except.bind, pure, Except.pure]
  rw [hsections, exists_mapM_eq_ok_iff]
  simp only [exists_section?_eq_ok_iff]
  constructor
  · intro hall width
    exact hall width (by cases width <;> decide)
  · intro hall width _
    exact hall width

/-- The first table that does not pass the check is reported, as the check reports it. -/
theorem render?_eq_error_iff :
    render? d tables = .error fault ↔
      ∃ before width after, Width.all = before ++ width :: after ∧
        (∀ earlier ∈ before, Table.check earlier (tables.get earlier) = .ok ()) ∧
        Table.check width (tables.get width) = .error fault := by
  rw [render?, bind_pure_eq_error_iff, mapM_eq_error_iff_append]
  simp only [exists_section?_eq_ok_iff, section?_eq_error_iff]

/-- A file is its header and the three tables, each behind a blank line. -/
theorem eq_of_render?_eq_ok (h : render? d tables = .ok written) :
    written = d.header ++
      String.join (Width.all.map fun width => "\n" ++ table d width (tables.get width)) := by
  rw [render?] at h
  cases hsections : Width.all.mapM (section? d tables) with
  | error fault => rw [hsections] at h; cases h
  | ok sections =>
    rw [hsections] at h
    rw [← Except.ok.inj h, eq_map_of_mapM_eq_ok (fun _ _ => section?_eq_ok) hsections]

/-- The first sign of a file. -/
def firstSign : Dialect → Char
  | .c => '#'
  | .rust => '/'

theorem head?_header (d : Dialect) : d.header.toList.head? = some (firstSign d) := by
  cases d <;> unfold Dialect.header <;> simp [firstSign]

/-- A file tells its dialect by its first sign. -/
theorem head?_of_render?_eq_ok (h : render? d tables = .ok written) :
    written.toList.head? = some (firstSign d) := by
  rw [eq_of_render?_eq_ok h, String.toList_append, List.head?_append, head?_header,
    Option.some_or]

/-- No file is one of both dialects. -/
theorem dialect_eq_of_render?_eq_ok {d' : Dialect} {tables' : Tables}
    (h : render? d tables = .ok written) (h' : render? d' tables' = .ok written) : d = d' := by
  have hsign := head?_of_render?_eq_ok h
  rw [head?_of_render?_eq_ok h', Option.some.injEq] at hsign
  cases d <;> cases d' <;> first | rfl | exact absurd hsign (by decide)

end CellWidth.Listing
