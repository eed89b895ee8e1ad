import CellWidth.Proofs.Listing.Reader
import CellWidth.Proofs.Listing.Rendering
import CellWidth.Proofs.Text.Cut
import CellWidth.Proofs.Text.Hex
import CellWidth.Proofs.Text.Lines
import CellWidth.Proofs.Text.Trim

/-!
# Listings are read back

What `Listing.table` and `Listing.render?` write, `Listing.read?` reads.

* `readRow?_rowSigns`, `readFrom?_rows`, `readFrom?_table` : a row, the rows and a table are read
  back, whatever has been read before.
* `listing_uniquely_readable` : so any tables one after another are told from the text, and a file
  is told from it with its three tables.
-/

namespace CellWidth

open Text (AtLineStart chomp_reverse_of_getLast?_ne carriageReturn cut?_append_mark
  cut?_eq_none_of_not_mem isBlank lines lines_append lines_append_newline newline trim
  trim_append_of_forall_blank trim_of_trimmed trim_subset)
open Text.Hex (value? value?_padded not_mem_padded)

/-- The bounds of a range, as a reader finds them. -/
def CodeRange.bounds (r : CodeRange) : Nat × Nat :=
  (r.start, r.stop)

theorem CodeRange.bounds_injective : Function.Injective CodeRange.bounds := by
  intro a b h
  rcases Prod.mk.inj h with ⟨hstart, hstop⟩
  exact CodeRange.eq_of_bounds hstart hstop

/-- Tables are known by their ranges for each width. -/
theorem Tables.ext_get {first second : Tables} (h : ∀ width, first.get width = second.get width) :
    first = second := by
  have hinvalid : first.invalid = second.invalid := h .invalid
  have hzero : first.zero = second.zero := h .zero
  have hdouble : first.double = second.double := h .double
  cases first
  cases second
  simp_all

theorem CodeRange.ofBounds?_bounds (r : CodeRange) :
    CodeRange.ofBounds? r.bounds.1 r.bounds.2 = some r :=
  dif_pos ⟨r.start_le_stop, r.stop_lt_limit⟩

namespace Listing

variable {d : Dialect} {known : List Dialect} {found : List Found} {r : CodeRange}
  {entries ranges : List CodeRange} {sep tail line text : List Char}

/-! ## Bounds and entries -/

theorem unmarked_of_not_mem (h : 'x' ∉ text) : unmarked text = text := by
  unfold unmarked
  split
  · simp at h
  · rfl

theorem readNumber?_of_not_mem (h : '+' ∉ text) :
    readNumber? text = (value? text).filter (· < codeLimit) := by
  unfold readNumber?
  split
  · simp at h
  · rfl

/-- A bound is read back, with as many digits as it may have. -/
theorem readBound?_boundSigns {code : Nat} (h : code < codeLimit) :
    readBound? (boundSigns code) = some code := by
  have hx : 'x' ∉ Text.Hex.padded .lower 5 code := not_mem_padded (by decide)
  have hplus : '+' ∉ Text.Hex.padded .lower 5 code := not_mem_padded (by decide)
  rw [readBound?, boundSigns, unmarked, unmarked_of_not_mem hx, readNumber?_of_not_mem hplus,
    value?_padded]
  simp [h]

/-- What may stand between two entries of a row. -/
def Separates (sep : List Char) : Prop :=
  ∀ c ∈ sep, c ∈ [',', ' ']

theorem Separates.not_mem {c : Char} (h : Separates sep) (hc : c ∉ [',', ' ']) : c ∉ sep :=
  fun hmem => hc (h c hmem)

theorem readPair?_entrySigns (hsep : Separates sep) :
    readPair? d (sep ++ entrySigns d r) = some r.bounds := by
  have hdrop : (sep ++ entrySigns d r).dropWhile (· ∈ [',', ' ', d.leftSign]) =
      boundSigns r.start ++ ([',', ' '] ++ boundSigns r.stop) := by
    rw [List.dropWhile_append_of_pos]
    · cases d <;> simp [entrySigns, boundSigns, Dialect.leftSign]
    · intro c hc
      have hsign : c ∈ [',', ' '] := hsep c hc
      exact decide_eq_true (List.mem_append_left [d.leftSign] hsign)
  have hcomma : ',' ∉ boundSigns r.start := not_mem_boundSigns (by decide) (by decide)
  have hstart : r.start < codeLimit := Nat.lt_of_le_of_lt r.start_le_stop r.stop_lt_limit
  rw [readPair?, hdrop, cut?_append_mark hcomma]
  simp [readBound?_boundSigns hstart, readBound?_boundSigns r.stop_lt_limit, CodeRange.bounds]

/-- Reading a row begins with its first entry. -/
theorem readRow?_entrySigns_append (hsep : Separates sep) (text : List Char) :
    readRow? d (sep ++ (entrySigns d r ++ d.rightSign :: text)) =
      (readRow? d text).map (r.bounds :: ·) := by
  have hright : d.rightSign ∉ sep ++ entrySigns d r := by
    rw [List.mem_append]
    intro hmem
    rcases hmem with hmem | hmem
    · exact hsep.not_mem (by cases d <;> decide) hmem
    · exact rightSign_not_mem_entrySigns hmem
  have hbound : holdsBound (sep ++ entrySigns d r) = true := by
    have hzero : '0' ∉ sep ++ [d.leftSign] := by
      rw [List.mem_append]
      intro hmem
      rcases hmem with hmem | hmem
      · exact hsep.not_mem (by decide) hmem
      · cases d <;> simp [Dialect.leftSign] at hmem
    rcases exists_entrySigns_eq d r with ⟨inner, hinner⟩
    have hsplit : sep ++ entrySigns d r = (sep ++ [d.leftSign]) ++ (['0', 'x'] ++ inner) := by
      simp [hinner, Dialect.rowMark]
    rw [holdsBound, hsplit, cut?_append_mark hzero]
    rfl
  rw [readRow?, ← List.append_assoc, List.splitOn_append_cons_self_of_not_mem hright,
    List.filter_cons_of_pos hbound, List.mapM_cons, readPair?_entrySigns hsep, readRow?]
  cases List.mapM (readPair? d) _ <;> rfl

/-- Behind the last entry there is nothing to read. -/
theorem readRow?_separator (hsep : Separates sep) : readRow? d sep = some [] := by
  have hright : d.rightSign ∉ sep := hsep.not_mem (by cases d <;> decide)
  have hzero : '0' ∉ sep := hsep.not_mem (by decide)
  rw [readRow?, List.splitOn_eq_singleton hright]
  simp [holdsBound, cut?_eq_none_of_not_mem hzero]

/-- A row is read back to the bounds of its entries. -/
theorem readRow?_rowSigns (hsep : Separates sep) (htail : Separates tail) :
    readRow? d (sep ++ (rowSigns d entries ++ tail)) = some (entries.map CodeRange.bounds) := by
  -- what separates two entries is read together with the second one
  induction entries generalizing sep with
  | nil =>
    have hboth : Separates (sep ++ tail) := by
      intro c hc
      rcases List.mem_append.1 hc with hmem | hmem
      · exact hsep c hmem
      · exact htail c hmem
    simpa [rowSigns] using readRow?_separator hboth
  | cons r entries ih =>
    cases entries with
    | nil =>
      have hrow : rowSigns d [r] ++ tail = entrySigns d r ++ d.rightSign :: tail := by
        simp [rowSigns]
      rw [hrow, readRow?_entrySigns_append hsep, readRow?_separator htail]
      rfl
    | cons next entries =>
      have hrow : rowSigns d (r :: next :: entries) ++ tail =
          entrySigns d r ++
            d.rightSign :: ([',', ' '] ++ (rowSigns d (next :: entries) ++ tail)) := by
        simp [rowSigns_cons_cons]
      rw [hrow, readRow?_entrySigns_append hsep, ih fun c hc => hc]
      rfl

/-! ## Lines -/

/-- The one known dialect with a property is found. -/
theorem find?_known {p : Dialect → Bool} (hd : d ∈ known) (hp : p d = true)
    (hone : ∀ e, p e = true → e = d) : known.find? p = some d := by
  rcases Option.isSome_iff_exists.1 (List.find?_isSome.2 ⟨d, hd, hp⟩) with ⟨e, he⟩
  rw [he, hone e (List.find?_some he)]

/-- A line that begins no table and has no `x`, and so no bound. -/
def Skipped (line : List Char) : Prop :=
  (∀ d ∈ Dialect.all, ¬ d.keyword.toList <+: line) ∧ 'x' ∉ line

theorem readLine?_of_skipped (h : Skipped line) : readLine? known found line = some found := by
  have hkeyword : known.find? (fun e => e.keyword.toList.isPrefixOf line) = none := by
    refine List.find?_eq_none.2 fun e _ => ?_
    rw [List.isPrefixOf_iff_prefix]
    exact h.1 e e.mem_all
  have hmark : known.find? (fun e => e.rowMark.isPrefixOf (trim line)) = none := by
    refine List.find?_eq_none.2 fun e _ => ?_
    rw [List.isPrefixOf_iff_prefix]
    intro hprefix
    have hx : 'x' ∈ trim line := hprefix.subset (by simp [Dialect.rowMark])
    exact h.2 (trim_subset _ hx)
  rw [readLine?, hkeyword, hmark]

/-- A line with the keyword of a known dialect begins a table. -/
theorem readLine?_keyword (hd : d ∈ known) {name more : List Char} (hname : d.nameEnd ∉ name) :
    readLine? known found (d.keyword.toList ++ (name ++ d.nameEnd :: more)) =
      some (⟨d, .ofList name, []⟩ :: found) := by
  have hfind : known.find? (fun e => e.keyword.toList.isPrefixOf
      (d.keyword.toList ++ (name ++ d.nameEnd :: more))) = some d := by
    refine find?_known hd (List.isPrefixOf_iff_prefix.2 (List.prefix_append _ _)) fun e he => ?_
    cases d <;> cases e <;> simp [Dialect.keyword] at he ⊢
  have hword : (name ++ d.nameEnd :: more).takeWhile (· ≠ d.nameEnd) = name :=
    Text.takeWhile_ne_append hname
  rw [readLine?, hfind]
  simp only [List.drop_left, hword]

/-- A row with what ends it begins with its mark and ends with no blank. -/
theorem exists_row_eq (hne : entries ≠ []) (htail : tail = [] ∨ tail = [',']) :
    ∃ middle last, rowSigns d entries ++ tail = d.rowMark ++ middle ++ [last] ∧
      isBlank last = false := by
  rcases List.exists_cons_of_ne_nil hne with ⟨r, rest, rfl⟩
  rcases exists_rowSigns_eq d r rest with ⟨middle, hrow⟩
  rcases htail with rfl | rfl
  · exact ⟨middle, d.rightSign, by rw [List.append_nil, hrow], by cases d <;> decide⟩
  · exact ⟨middle ++ [d.rightSign], ',', by simp [hrow], by decide⟩

/-- An indented row, with or without a comma behind it, goes to the table that was begun last. -/
theorem readLine?_row (hd : d ∈ known) (table : Found) (earlier : List Found)
    (hne : entries ≠ []) (htail : tail = [] ∨ tail = [',']) :
    readLine? known (table :: earlier) ("    ".toList ++ (rowSigns d entries ++ tail)) =
      some (table.extend (entries.map CodeRange.bounds) :: earlier) := by
  rcases exists_row_eq (d := d) hne htail with ⟨middle, last, hrow, hlast⟩
  -- an indented line is no beginning of a table, and without its indent it begins as a row
  have hkeyword : known.find? (fun e => e.keyword.toList.isPrefixOf
      ("    ".toList ++ (rowSigns d entries ++ tail))) = none := by
    refine List.find?_eq_none.2 fun e _ => ?_
    cases e <;> simp [Dialect.keyword]
  have htrim : trim ("    ".toList ++ (rowSigns d entries ++ tail)) =
      rowSigns d entries ++ tail := by
    have hindent : ∀ c ∈ "    ".toList, isBlank c = true := by
      intro c hc
      have hspace : c = ' ' := by simpa using hc
      rw [hspace]
      decide
    have hhead : isBlank d.leftSign = false := by cases d <;> decide
    rw [trim_append_of_forall_blank hindent, hrow]
    exact trim_of_trimmed ⟨by simpa [Dialect.rowMark], by simpa⟩
  have hmark : known.find? (fun e => e.rowMark.isPrefixOf (rowSigns d entries ++ tail)) =
      some d := by
    rw [hrow]
    refine find?_known hd ?_ fun e he => ?_
    · simp [Dialect.rowMark]
    · cases d <;> cases e <;> simp [Dialect.rowMark, Dialect.leftSign] at he ⊢
  have hseparates : Separates tail := by
    rcases htail with rfl | rfl <;> simp [Separates]
  have hnothing : Separates [] := by
    intro c hc
    cases hc
  have hread : readRow? d (rowSigns d entries ++ tail) = some (entries.map CodeRange.bounds) :=
    readRow?_rowSigns hnothing hseparates
  simp only [readLine?, hkeyword, htrim, hmark, hread, Option.map_some]

/-! ## Rows and tables -/

theorem readFrom?_append (h : AtLineStart text) (rest : List Char) :
    readFrom? known found (text ++ rest) =
      (readFrom? known found text).bind fun found => readFrom? known found rest := by
  rw [readFrom?, lines_append h, List.foldlM_append]
  rfl

/-- Reading goes on behind a line that ends in no carriage return. -/
theorem readFrom?_line (hline : newline ∉ line) (hlast : line.getLast? ≠ some carriageReturn)
    (rest : List Char) :
    readFrom? known found (line ++ newline :: rest) =
      (readLine? known found line).bind fun found => readFrom? known found rest := by
  rw [readFrom?, lines_append_newline hline, chomp_reverse_of_getLast?_ne hlast, List.foldlM_cons]
  rfl

theorem readFrom?_nil : readFrom? known found [] = some found :=
  rfl

theorem readFrom?_of_skipped (h : ∀ line ∈ lines text, Skipped line) :
    readFrom? known found text = some found := by
  rw [readFrom?]
  generalize lines text = written at h ⊢
  induction written with
  | nil => rfl
  | cons line rest ih =>
    rw [List.foldlM_cons, readLine?_of_skipped (h line List.mem_cons_self)]
    exact ih fun later hlater => h later (List.mem_cons_of_mem _ hlater)

theorem Found.extend_extend (table : Found) (first second : List (Nat × Nat)) :
    (table.extend first).extend second = table.extend (first ++ second) := by
  simp [Found.extend]

/-- An indented row and what ends it. -/
theorem readFrom?_row (hd : d ∈ known) (table : Found) (earlier : List Found)
    (hne : entries ≠ []) (htail : tail = [] ∨ tail = [',']) (rest : List Char) :
    readFrom? known (table :: earlier) ("    ".toList ++ (rowSigns d entries ++ tail) ++
        newline :: rest) =
      readFrom? known (table.extend (entries.map CodeRange.bounds) :: earlier) rest := by
  have hline : newline ∉ "    ".toList ++ (rowSigns d entries ++ tail) := by
    have hindent : newline ∉ "    ".toList := by simp [newline]
    have htail' : (newline : Char) ∉ tail := by
      rcases htail with rfl | rfl <;> decide
    simp only [List.mem_append, not_or]
    exact ⟨hindent, newline_not_mem_rowSigns, htail'⟩
  have hlast : ("    ".toList ++ (rowSigns d entries ++ tail)).getLast? ≠ some carriageReturn := by
    rcases exists_row_eq (d := d) hne htail with ⟨middle, last, hrow, hblank⟩
    rw [hrow, ← List.append_assoc, List.getLast?_concat]
    intro heq
    -- a carriage return would be a blank
    rw [Option.some.inj heq] at hblank
    exact absurd hblank (by decide)
  rw [readFrom?_line hline hlast, readLine?_row hd table earlier hne htail]
  rfl

/-- The rows of a table are read back one by one. -/
theorem readFrom?_rowLines (hd : d ∈ known) (table : Found) (earlier : List Found)
    (chunks : List (List CodeRange)) (hne : ∀ entries ∈ chunks, entries ≠ [])
    (hchunks : chunks ≠ []) :
    readFrom? known (table :: earlier) ([',', newline].intercalate
        (chunks.map fun entries => "    ".toList ++ rowSigns d entries) ++ [newline]) =
      some (table.extend (chunks.flatten.map CodeRange.bounds) :: earlier) := by
  induction chunks generalizing table with
  | nil => exact absurd rfl hchunks
  | cons entries chunks ih =>
    have hentries : entries ≠ [] := hne entries List.mem_cons_self
    -- a row ends in a comma unless it is the last one
    cases chunks with
    | nil =>
      have hrow := readFrom?_row hd table earlier hentries (.inl rfl) []
      simpa [readFrom?_nil] using hrow
    | cons next chunks =>
      have hrow := readFrom?_row hd table earlier hentries (.inr rfl)
        ([',', newline].intercalate ((next :: chunks).map fun entries =>
          "    ".toList ++ rowSigns d entries) ++ [newline])
      rw [ih _ (fun e he => hne e (List.mem_cons_of_mem _ he)) (List.cons_ne_nil _ _),
        Found.extend_extend, ← List.map_append] at hrow
      rw [List.map_cons, List.map_cons, List.intercalate_cons_cons]
      simpa using hrow

/-- The rows of a table are read back to the bounds of its ranges, in order. -/
theorem readFrom?_rows (hd : d ∈ known) (table : Found) (earlier : List Found)
    (ranges : List CodeRange) :
    readFrom? known (table :: earlier) (rows d.left d.right ranges).toList =
      some (table.extend (ranges.map CodeRange.bounds) :: earlier) := by
  by_cases hnil : ranges = []
  · subst hnil
    simp [rows, readFrom?_nil, Found.extend]
  · have hread := readFrom?_rowLines hd table earlier (inRows ranges)
      (fun _ => ne_nil_of_mem_inRows) (inRows_ne_nil hnil)
    rw [flatten_inRows] at hread
    rw [← hread, rows, if_neg hnil, String.toList_append, String.toList_intercalate, List.map_map]
    simp only [Function.comp_def, row_toList]
    rfl

theorem atLineStart_rows (d : Dialect) (ranges : List CodeRange) :
    AtLineStart (rows d.left d.right ranges).toList := by
  unfold rows
  split
  · exact .inl rfl
  · rw [String.toList_append]
    exact .inr List.getLast?_concat

theorem lines_opening (d : Dialect) (width : Width) :
    ∃ more, lines (d.opening width).toList =
      [d.keyword.toList ++ ((d.tableName width).toList ++ d.nameEnd :: more)] := by
  cases d
  · refine ⟨"] = \x7b".toList, ?_⟩
    unfold Dialect.opening
    cases width <;> cbv
  · refine ⟨" &[(u32, u32)] = &[".toList, ?_⟩
    unfold Dialect.opening
    cases width <;> cbv

theorem atLineStart_opening (d : Dialect) (width : Width) :
    AtLineStart (d.opening width).toList := by
  right
  cases d <;> unfold Dialect.opening <;> rw [String.toList_append, List.getLast?_append] <;>
    simp [newline]

theorem atLineStart_closing (d : Dialect) : AtLineStart d.closing.toList := by
  right
  cases d <;> simp [Dialect.closing, newline]

theorem skipped_closing : ∀ line ∈ lines d.closing.toList, Skipped line := by
  cases d <;>
    simp [lines, Text.linesFrom, Text.chomp, newline, carriageReturn, Skipped, Dialect.all,
      Dialect.keyword, Dialect.closing]

theorem nameEnd_not_mem_tableName (d : Dialect) (width : Width) :
    d.nameEnd ∉ (d.tableName width).toList := by
  cases d <;> cases width <;> simp [Dialect.nameEnd, Dialect.tableName]

/-- What a table is read back to. -/
def foundIn (d : Dialect) (width : Width) (ranges : List CodeRange) : Found :=
  ⟨d, d.tableName width, ranges.map CodeRange.bounds⟩

/-- A table is read back with its name and the bounds of its ranges, whatever they are. -/
theorem readFrom?_table (hd : d ∈ known) (found : List Found) (width : Width)
    (ranges : List CodeRange) :
    readFrom? known found (table d width ranges).toList =
      some (foundIn d width ranges :: found) := by
  have hopening : readFrom? known found (d.opening width).toList =
      some (⟨d, d.tableName width, []⟩ :: found) := by
    rcases lines_opening d width with ⟨more, hlines⟩
    rw [readFrom?, hlines, List.foldlM_cons,
      readLine?_keyword hd (nameEnd_not_mem_tableName d width), String.ofList_toList]
    rfl
  rw [table, String.toList_append, String.toList_append, List.append_assoc,
    readFrom?_append (atLineStart_opening d width), hopening, Option.bind_some,
    readFrom?_append (atLineStart_rows d ranges), readFrom?_rows hd, Option.bind_some,
    readFrom?_of_skipped skipped_closing]
  rfl

theorem atLineStart_table (d : Dialect) (width : Width) (ranges : List CodeRange) :
    AtLineStart (table d width ranges).toList := by
  rw [table, String.toList_append, String.toList_append]
  exact ((atLineStart_opening d width).append (atLineStart_rows d ranges)).append
    (atLineStart_closing d)

/-! ## Tables one after another, and files -/

/-- What is written item by item is read back item by item, the last one first. -/
theorem readFrom?_flatMap {α : Type} (write : α → List Char) (read : α → Found)
    (hstart : ∀ item, AtLineStart (write item))
    (hread : ∀ item found, readFrom? known found (write item) = some (read item :: found))
    (items : List α) (found : List Found) :
    readFrom? known found (items.flatMap write) = some ((items.map read).reverse ++ found) := by
  induction items generalizing found with
  | nil => rfl
  | cons item items ih =>
    rw [List.flatMap_cons, readFrom?_append (hstart item), hread, Option.bind_some, ih,
      List.map_cons, List.reverse_cons, List.append_assoc, List.singleton_append]

/-- What is read back item by item is read back. -/
theorem mapM_map_eq_some {α β : Type} {write : α → β} {back? : β → Option α}
    (h : ∀ item, back? (write item) = some item) (items : List α) :
    (items.map write).mapM back? = some items := by
  induction items with
  | nil => rfl
  | cons item items ih =>
    rw [List.map_cons, List.mapM_cons, h, ih]
    rfl

theorem table?_foundIn (d : Dialect) (width : Width) (ranges : List CodeRange) :
    (foundIn d width ranges).table? = some (d, width, ranges) := by
  have hwidth : (Width.all.find? fun other => d.tableName other = d.tableName width) =
      some width := by
    cases d <;> cases width <;> decide
  have hranges : (ranges.map CodeRange.bounds).mapM
      (fun entry => CodeRange.ofBounds? entry.1 entry.2) = some ranges :=
    mapM_map_eq_some CodeRange.ofBounds?_bounds ranges
  rw [Found.table?]
  show (Width.all.find? fun other => d.tableName other = d.tableName width).bind _ = _
  rw [hwidth, Option.bind_some]
  show Option.bind ((ranges.map CodeRange.bounds).mapM _) _ = _
  rw [hranges]
  rfl

/-- Any tables one after another are read back. -/
theorem tables?_join (triples : List (Dialect × Width × List CodeRange)) :
    tables? (String.join (triples.map fun triple => table triple.1 triple.2.1 triple.2.2)) =
      some triples := by
  have hread := readFrom?_flatMap
    (fun triple : Dialect × Width × List CodeRange => (table triple.1 triple.2.1 triple.2.2).toList)
    (fun triple => foundIn triple.1 triple.2.1 triple.2.2) (fun _ => atLineStart_table _ _ _)
    (fun triple found => readFrom?_table triple.1.mem_all found triple.2.1 triple.2.2) triples []
  rw [tables?, read?, String.toList_join, List.flatMap_map, hread, List.append_nil,
    Option.map_some, List.reverse_reverse]
  exact mapM_map_eq_some (fun triple => table?_foundIn triple.1 triple.2.1 triple.2.2) triples

theorem skipped_header : ∀ line ∈ lines d.header.toList, Skipped line := by
  cases d <;> unfold Dialect.header <;>
    simp [lines, Text.linesFrom, Text.chomp, newline, carriageReturn, Skipped, Dialect.all,
      Dialect.keyword]

theorem atLineStart_header (d : Dialect) : AtLineStart d.header.toList := by
  right
  cases d <;> unfold Dialect.header <;> rw [String.toList_append, List.getLast?_append] <;>
    simp [newline]

/-- A file is read back, without its header, to its three tables in the order of `Width.all`. -/
theorem read?_render? (hd : d ∈ known) {tables : Tables} {written : String}
    (h : render? d tables = .ok written) :
    read? known written = some (Width.all.map fun width => foundIn d width (tables.get width)) := by
  have hblank : AtLineStart "\n".toList := .inr rfl
  have hskipped : ∀ line ∈ lines "\n".toList, Skipped line := by
    simp [lines, Text.linesFrom, Text.chomp, newline, Skipped, Dialect.all, Dialect.keyword]
  rw [eq_of_render?_eq_ok h, read?, String.toList_append, String.toList_join, List.flatMap_map,
    readFrom?_append (atLineStart_header d), readFrom?_of_skipped skipped_header, Option.bind_some]
  rw [readFrom?_flatMap _ fun width => foundIn d width (tables.get width)]
  · rw [List.append_nil, Option.map_some, List.reverse_reverse]
  · intro width
    rw [String.toList_append]
    exact hblank.append (atLineStart_table _ _ _)
  · intro width found
    rw [String.toList_append, readFrom?_append hblank, readFrom?_of_skipped hskipped,
      Option.bind_some, readFrom?_table hd]

/-- A file determines its tables. -/
theorem render?_injective {tables tables' : Tables} {written : String}
    (h : render? d tables = .ok written) (h' : render? d tables' = .ok written) :
    tables = tables' := by
  have hread := read?_render? (List.mem_singleton_self d) h
  rw [read?_render? (List.mem_singleton_self d) h', Option.some.injEq, List.map_inj_left] at hread
  have hget (width : Width) : tables'.get width = tables.get width := by
    have hfound := hread width (by cases width <;> decide)
    exact CodeRange.bounds_injective.list_map (Found.mk.inj hfound).2.2
  exact (Tables.ext_get hget).symm

/-- **What a text tells.** One reader finds any tables that stand one after
another, whatever their ranges. From a file, a reader of its dialect finds the three tables under
their names and in their order; so two files of a dialect with the same text have the same
tables. -/
theorem listing_uniquely_readable :
    (∀ triples : List (Dialect × Width × List CodeRange),
      tables? (String.join (triples.map fun triple => table triple.1 triple.2.1 triple.2.2)) =
        some triples) ∧
    (∀ (tables : Tables) (written : String), render? .c tables = .ok written →
      read? [.c] written = some
        [⟨.c, "ucs_invalid", tables.invalid.map CodeRange.bounds⟩,
          ⟨.c, "ucs_zero_width", tables.zero.map CodeRange.bounds⟩,
          ⟨.c, "ucs_double_width", tables.double.map CodeRange.bounds⟩]) ∧
    (∀ (tables : Tables) (written : String), render? .rust tables = .ok written →
      read? [.rust] written = some
        [⟨.rust, "UCS_INVALID", tables.invalid.map CodeRange.bounds⟩,
          ⟨.rust, "UCS_ZERO_WIDTH", tables.zero.map CodeRange.bounds⟩,
          ⟨.rust, "UCS_DOUBLE_WIDTH", tables.double.map CodeRange.bounds⟩]) ∧
    ∀ (dialect : Dialect) (tables tables' : Tables) (written : String),
      render? dialect tables = .ok written → render? dialect tables' = .ok written →
        tables = tables' := by
  refine ⟨tables?_join, ?_, ?_, ?_⟩
  · intro tables written h
    exact read?_render? (List.mem_singleton_self Dialect.c) h
  · intro tables written h
    exact read?_render? (List.mem_singleton_self Dialect.rust) h
  · intro dialect tables tables' written h h'
    exact render?_injective h h'

/-- Tables with a row that is full, one that is not, and bounds of five to eight digits. -/
def sampleTables : Tables where
  invalid := [⟨0x378, 0x379, by decide, by decide⟩, ⟨0x380, 0x383, by decide, by decide⟩,
    ⟨0x38b, 0x38b, by decide, by decide⟩, ⟨0x10fffe, 0xffffffff, by decide, by decide⟩]
  zero := [⟨0x300, 0x36f, by decide, by decide⟩]
  double := [⟨0x1100, 0x115f, by decide, by decide⟩, ⟨0x20000, 0x2fffd, by decide, by decide⟩]

theorem listing_uniquely_readable_of_sampleTables :
    (∃ written, render? .c sampleTables = .ok written ∧
      read? [.c] written = some
        [⟨.c, "ucs_invalid", [(0x378, 0x379), (0x380, 0x383), (0x38b, 0x38b),
            (0x10fffe, 0xffffffff)]⟩,
          ⟨.c, "ucs_zero_width", [(0x300, 0x36f)]⟩,
          ⟨.c, "ucs_double_width", [(0x1100, 0x115f), (0x20000, 0x2fffd)]⟩] ∧
      ∀ tables, render? .c tables = .ok written → tables = sampleTables) ∧
    ∃ written, render? .rust sampleTables = .ok written ∧
      read? [.rust] written = some
        [⟨.rust, "UCS_INVALID", [(0x378, 0x379), (0x380, 0x383), (0x38b, 0x38b),
            (0x10fffe, 0xffffffff)]⟩,
          ⟨.rust, "UCS_ZERO_WIDTH", [(0x300, 0x36f)]⟩,
          ⟨.rust, "UCS_DOUBLE_WIDTH", [(0x1100, 0x115f), (0x20000, 0x2fffd)]⟩] := by
  rcases listing_uniquely_readable with ⟨_, hc, hrust, hinjective⟩
  refine ⟨⟨_, rfl, hc sampleTables _ rfl, ?_⟩, ⟨_, rfl, hrust sampleTables _ rfl⟩⟩
  intro tables h
  exact hinjective .c tables sampleTables _ h rfl

end Listing

end CellWidth
