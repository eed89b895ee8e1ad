import Mathlib
import CellWidth.Proofs.Listing.Placement
import CellWidth.Proofs.Tables.Bounds

/-!
# The numerals of a listing

Which numbers stand in a written file, and how long their numerals are.

* `NumeralIn text numeral` : the numeral stands in the text behind a `0x`. `numeralsIn text` : all
  of them in order (`mem_numeralsIn_iff`).
* `Carries piece numerals` : whatever follows the piece, these are the numerals that it brings.
* `numeralsIn_render?` : a file holds the numerals of its tables and no others.
* `counts_and_numerals_bounded` : how large the counts of tables are, and how long the numerals in
  what is written of a build.
-/

namespace CellWidth.Listing

open Text.Hex (IsDigit padded digits_lower isDigit_of_mem_padded not_mem_padded)

variable {d : Dialect} {tables : Tables} {written : String} {text piece piece' numeral : List Char}
  {numerals numerals' : List (List Char)} {code : Nat} {c : Char}

/-! ## Numerals in a text -/

/-- The numeral stands in the text, behind a `0x` and with no digit behind it. -/
def NumeralIn (text numeral : List Char) : Prop :=
  ∃ before behind, text = before ++ '0' :: 'x' :: (numeral ++ behind) ∧
    (∀ c ∈ numeral, IsDigit c) ∧ ∀ c, behind.head? = some c → ¬ IsDigit c

/-- The digits behind a mark. -/
def digitsOf (text : List Char) : List Char :=
  text.takeWhile fun c => decide (IsDigit c)

/-- The numerals behind each `0x` of a text, in order. -/
def numeralsIn : List Char → List (List Char)
  | [] => []
  | c :: text =>
    if c = '0' ∧ text.head? = some 'x' then digitsOf text.tail :: numeralsIn text
    else numeralsIn text

theorem digitsOf_eq_iff :
    digitsOf text = numeral ↔ ∃ behind, text = numeral ++ behind ∧
      (∀ c ∈ numeral, IsDigit c) ∧ ∀ c, behind.head? = some c → ¬ IsDigit c := by
  rw [digitsOf, Text.takeWhile_eq_iff]
  simp only [decide_eq_true_eq, decide_eq_false_iff_not]

theorem numeralsIn_cons_of_ne (hc : c ≠ '0') (text : List Char) :
    numeralsIn (c :: text) = numeralsIn text := by
  rw [numeralsIn, if_neg fun h => hc h.1]

theorem numeralsIn_marked (text : List Char) :
    numeralsIn ('0' :: 'x' :: text) = digitsOf text :: numeralsIn text := by
  rw [numeralsIn, if_pos ⟨rfl, rfl⟩, numeralsIn_cons_of_ne (by decide)]
  rfl

/-- A numeral of a text stands at its start or behind its first sign. -/
theorem numeralIn_cons_iff :
    NumeralIn (c :: text) numeral ↔
      (∃ rest, c :: text = '0' :: 'x' :: rest ∧ digitsOf rest = numeral) ∨
        NumeralIn text numeral := by
  constructor
  · rintro ⟨before, behind, htext, hnumeral, hbehind⟩
    cases before with
    | nil => exact .inl ⟨_, htext, digitsOf_eq_iff.2 ⟨behind, rfl, hnumeral, hbehind⟩⟩
    | cons e before =>
      exact .inr ⟨before, behind, (List.cons.inj htext).2, hnumeral, hbehind⟩
  · rintro (⟨rest, htext, hdigits⟩ | ⟨before, behind, rfl, hnumeral, hbehind⟩)
    · obtain ⟨behind, rfl, hnumeral, hbehind⟩ := digitsOf_eq_iff.1 hdigits
      exact ⟨[], behind, htext, hnumeral, hbehind⟩
    · exact ⟨c :: before, behind, rfl, hnumeral, hbehind⟩

theorem mem_numeralsIn_iff : numeral ∈ numeralsIn text ↔ NumeralIn text numeral := by
  induction text with
  | nil => simp [numeralsIn, NumeralIn]
  | cons c text ih =>
    rw [numeralIn_cons_iff, ← ih]
    by_cases hmark : c = '0' ∧ text.head? = some 'x'
    · obtain ⟨rfl, hhead⟩ := hmark
      obtain ⟨rest, rfl⟩ := List.head?_eq_some_iff.1 hhead
      rw [numeralsIn_marked, List.mem_cons, numeralsIn_cons_of_ne (by decide)]
      simp [eq_comm]
    · rw [numeralsIn, if_neg hmark]
      refine (or_iff_right ?_).symm
      rintro ⟨rest, htext, -⟩
      cases htext
      exact hmark ⟨rfl, rfl⟩

/-! ## Pieces of a text -/

/-- Whatever follows the piece, its numerals are these, and then come those of what follows. -/
def Carries (piece : List Char) (numerals : List (List Char)) : Prop :=
  ∀ rest, numeralsIn (piece ++ rest) = numerals ++ numeralsIn rest

theorem Carries.append (h : Carries piece numerals) (h' : Carries piece' numerals') :
    Carries (piece ++ piece') (numerals ++ numerals') := by
  intro rest
  rw [List.append_assoc, h, h', List.append_assoc]

/-- A piece in which no mark begins has no numerals. -/
theorem carries_nil (h : '0' ∉ piece) : Carries piece [] := by
  intro rest
  induction piece with
  | nil => rfl
  | cons c piece ih =>
    rw [List.mem_cons, not_or] at h
    rw [List.cons_append, numeralsIn_cons_of_ne (Ne.symm h.1)]
    exact ih h.2

/-- Digits bring no mark, unless what follows completes one. -/
theorem numeralsIn_digits_append (hx : 'x' ∉ piece) (hc : c ≠ 'x') (rest : List Char) :
    numeralsIn (piece ++ c :: rest) = numeralsIn (c :: rest) := by
  induction piece with
  | nil => rfl
  | cons e piece ih =>
    rw [List.mem_cons, not_or] at hx
    have hhead : (piece ++ c :: rest).head? ≠ some 'x' := by
      cases piece with
      | nil => simpa using hc
      | cons f piece => simpa using fun heq : f = 'x' => hx.2 (heq ▸ List.mem_cons_self)
    rw [List.cons_append, numeralsIn, if_neg fun h => hhead h.2, ih hx.2]

/-- A bound and the sign that ends it. -/
theorem carries_boundSigns (hdigit : ¬ IsDigit c) (hx : c ≠ 'x') :
    Carries (boundSigns code ++ [c]) [padded .lower 5 code] := by
  intro rest
  have hzero : c ≠ '0' := fun heq => hdigit (heq ▸ by decide)
  have hdigits : digitsOf (padded .lower 5 code ++ c :: rest) = padded .lower 5 code := by
    refine digitsOf_eq_iff.2 ⟨c :: rest, rfl, fun e he => isDigit_of_mem_padded he, fun e he => ?_⟩
    obtain rfl : c = e := by simpa using he
    exact hdigit
  have hmark : boundSigns code ++ [c] ++ rest =
      '0' :: 'x' :: (padded .lower 5 code ++ c :: rest) := by
    simp [boundSigns]
  rw [hmark, numeralsIn_marked, hdigits,
    numeralsIn_digits_append (not_mem_padded (by decide)) hx, numeralsIn_cons_of_ne hzero]
  rfl

/-- Pieces one after another. -/
theorem carries_join {α : Type} {f : Nat → α → String} {g : α → List (List Char)}
    (h : ∀ place x, Carries (f place x).toList (g x)) (xs : List α) :
    Carries (String.join (xs.mapIdx f)).toList (xs.flatMap g) := by
  induction xs generalizing f with
  | nil => exact carries_nil List.not_mem_nil
  | cons x xs ih =>
    rw [List.mapIdx_cons, String.join_cons, String.toList_append, List.flatMap_cons]
    exact (h 0 x).append (ih fun place => h (place + 1))

/-! ## Numerals in a file -/

/-- The numerals of an entry. -/
def numeralsOf (r : CodeRange) : List (List Char) :=
  [padded .lower 5 r.start, padded .lower 5 r.stop]

theorem carries_entry (d : Dialect) (r : CodeRange) :
    Carries (entry d.left d.right r).toList (numeralsOf r) := by
  have hleft : Carries [d.leftSign] [] := carries_nil (by cases d <;> decide)
  have hstart : Carries (boundSigns r.start ++ [',']) [padded .lower 5 r.start] :=
    carries_boundSigns (by decide) (by decide)
  have hblank : Carries [' '] [] := carries_nil (by decide)
  have hstop : Carries (boundSigns r.stop ++ [d.rightSign]) [padded .lower 5 r.stop] :=
    carries_boundSigns (by cases d <;> decide) (by cases d <;> decide)
  have hsigns : entrySigns d r ++ [d.rightSign] = [d.leftSign] ++ (boundSigns r.start ++ [',']) ++
      [' '] ++ (boundSigns r.stop ++ [d.rightSign]) := by
    simp [entrySigns]
  rw [entry_toList, hsigns]
  exact ((hleft.append hstart).append hblank).append hstop

theorem carries_placed (d : Dialect) (count place : Nat) (r : CodeRange) :
    Carries (placed d.left d.right count place r).toList (numeralsOf r) := by
  have hindent : Carries (if place % 3 = 0 then "    " else " ").toList [] :=
    carries_nil (by split <;> simp)
  have hcomma : Carries (if place + 1 < count then "," else "").toList [] :=
    carries_nil (by split <;> simp)
  have hnewline :
      Carries (if place % 3 = 2 ∨ place + 1 = count then "\n" else "").toList [] :=
    carries_nil (by split <;> simp)
  rw [placed_eq, String.toList_append, String.toList_append, String.toList_append]
  have hplaced := ((hindent.append (carries_entry d r)).append hcomma).append hnewline
  simpa using hplaced

theorem carries_table (d : Dialect) (width : Width) (ranges : List CodeRange) :
    Carries (table d width ranges).toList (ranges.flatMap numeralsOf) := by
  have hopening : Carries (d.opening width).toList [] := by
    refine carries_nil ?_
    cases d <;> cases width <;> unfold Dialect.opening Dialect.tableName <;> simp
  have hrows : Carries (rows d.left d.right ranges).toList (ranges.flatMap numeralsOf) := by
    rw [rows_eq_join]
    exact carries_join (carries_placed d ranges.length) ranges
  have hclosing : Carries d.closing.toList [] :=
    carries_nil (by cases d <;> unfold Dialect.closing <;> simp)
  rw [table, String.toList_append, String.toList_append]
  simpa using (hopening.append hrows).append hclosing

/-- A file holds the numerals of its tables, in order, and no others. -/
theorem numeralsIn_render? (h : render? d tables = .ok written) :
    numeralsIn written.toList =
      Width.all.flatMap fun width => (tables.get width).flatMap numeralsOf := by
  have hheader : Carries d.header.toList [] :=
    carries_nil (by cases d <;> unfold Dialect.header <;> simp)
  have htable (width : Width) : Carries ("\n" ++ table d width (tables.get width)).toList
      ((tables.get width).flatMap numeralsOf) := by
    rw [String.toList_append]
    exact (carries_nil (by simp)).append (carries_table d width (tables.get width))
  have htables : Carries
      (String.join (Width.all.map fun width => "\n" ++ table d width (tables.get width))).toList
      (Width.all.flatMap fun width => (tables.get width).flatMap numeralsOf) :=
    carries_join (fun _ => htable) Width.all
  have hfile := hheader.append htables []
  rw [eq_of_render?_eq_ok h, String.toList_append]
  rwa [List.append_nil, List.nil_append, numeralsIn, List.append_nil] at hfile

/-! ## How long the numerals are -/

/-- The numeral of a code point fills five places, and at most one more. -/
theorem length_padded_of_le_last (h : code ≤ lastCodepoint) :
    (padded .lower 5 code).length = 5 ∨ (padded .lower 5 code).length = 6 := by
  have hlast : lastCodepoint < 16 ^ 6 := by decide
  have hlength : (Nat.toDigits 16 code).length ≤ 6 :=
    Nat.toDigits_length 16 code 6 (by decide) (h.trans_lt hlast)
  rw [padded, digits_lower, List.length_leftpad]
  omega

/-- In a listing of tables that reach no further than the last code point, every numeral has five
or six digits. -/
theorem length_of_numeralIn_render?
    (hlast : ∀ width, ∀ r ∈ tables.get width, r.stop ≤ lastCodepoint)
    (h : render? d tables = .ok written) (hnumeral : NumeralIn written.toList numeral) :
    numeral.length = 5 ∨ numeral.length = 6 := by
  rw [← mem_numeralsIn_iff, numeralsIn_render? h, List.mem_flatMap] at hnumeral
  rcases hnumeral with ⟨width, -, hmem⟩
  rcases List.mem_flatMap.1 hmem with ⟨r, hr, hbound⟩
  have hstop : r.stop ≤ lastCodepoint := hlast width r hr
  have hstart : r.start ≤ lastCodepoint := r.start_le_stop.trans hstop
  rcases List.mem_pair.1 hbound with rfl | rfl
  · exact length_padded_of_le_last hstart
  · exact length_padded_of_le_last hstop

/-- **How large it can get.** A table that the check accepts holds no fewer code values than it has
entries, and with the gaps between the entries they are no more than 32 bits can tell apart; so no
step towards the sizes, their sum and the bytes leaves its word. A table that is built reaches no
further than the last code point, which bounds its counts more narrowly. It is written in every
dialect, with two numerals for each entry and no others, and each of them has five or six digits
behind its `0x`. -/
theorem counts_and_numerals_bounded :
    (∀ (width : Width) (ranges : List CodeRange), Table.check width ranges = .ok () →
      Summary.Fits width ranges) ∧
    ∀ (general eastAsian : Source) (tables : Tables),
      (Tables.build general eastAsian).result = .ok tables →
        (∀ width, tables.FitAt width) ∧
        ∀ dialect, ∃ written, render? dialect tables = .ok written ∧
          numeralsIn written.toList =
            (Width.all.flatMap fun width => (tables.get width).flatMap numeralsOf) ∧
          ∀ numeral, NumeralIn written.toList numeral →
            numeral.length = 5 ∨ numeral.length = 6 := by
  refine ⟨fun width ranges => Summary.fits_of_check, fun general eastAsian tables hbuild => ?_⟩
  refine ⟨Tables.fitAt_of_build hbuild, fun dialect => ?_⟩
  rcases exists_render?_eq_ok_iff.2 (Tables.check_of_build hbuild) with ⟨written, hwritten⟩
  have hlast : ∀ width, ∀ r ∈ tables.get width, r.stop ≤ lastCodepoint := by
    intro width r hr
    exact Tables.stop_le_last_of_build hbuild hr
  refine ⟨written, hwritten, numeralsIn_render? hwritten, fun numeral hnumeral => ?_⟩
  exact length_of_numeralIn_render? hlast hwritten hnumeral

/-- The bounds are met: one entry can hold all code values, and code points from one end to the
other are written with five digits and with six. -/
theorem counts_and_numerals_bounded_of_files :
    (Table.check .zero [⟨0, 0xFFFFFFFF, by decide, by decide⟩] = .ok () ∧
      Summary.Fits .zero [⟨0, 0xFFFFFFFF, by decide, by decide⟩] ∧
      (Summary.ofRanges .zero [⟨0, 0xFFFFFFFF, by decide, by decide⟩]).codepoints = 2 ^ 32) ∧
    ∃ tables, (Tables.build (.ofBytes "gc" (Text.Utf8.encode "0..10FFFF;Cn\n0300;Mn\n"))
        (.ofBytes "eaw" (Text.Utf8.encode "3000;F\n"))).result = .ok tables ∧
      (∀ width, tables.FitAt width) ∧
      (Summary.ofRanges .invalid tables.invalid).codepoints = 0x110000 ∧
      ∀ dialect, ∃ written, render? dialect tables = .ok written ∧
        (numeralsIn written.toList).map String.ofList =
          ["00000", "10ffff", "00300", "00300", "03000", "03000"] := by
  rcases counts_and_numerals_bounded with ⟨hfits, hbuilt⟩
  have hcheck : Table.check .zero [⟨0, 0xFFFFFFFF, by decide, by decide⟩] = .ok () := rfl
  have hbuild : (Tables.build
      (.ofBytes "gc" (Text.Utf8.encode "0..10FFFF;Cn\n0300;Mn\n"))
      (.ofBytes "eaw" (Text.Utf8.encode "3000;F\n"))).result =
      .ok ⟨[⟨0, 0x10FFFF, by decide, by decide⟩], [⟨0x300, 0x300, by decide, by decide⟩],
        [⟨0x3000, 0x3000, by decide, by decide⟩]⟩ := by cbv
  rcases hbuilt _ _ _ hbuild with ⟨hfit, hwritten⟩
  refine ⟨⟨hcheck, hfits _ _ hcheck, rfl⟩, _, hbuild, hfit, rfl, fun dialect => ?_⟩
  rcases hwritten dialect with ⟨written, hrender, hnumerals, -⟩
  refine ⟨written, hrender, ?_⟩
  rw [hnumerals]
  cbv

end CellWidth.Listing
