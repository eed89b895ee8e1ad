import Mathlib
import CellWidth.Proofs.Record.Layout

/-!
# Why a line is refused

A line can be wrong in several ways at once. The reader goes from left to right and names the first
fault that it meets.

* `BoundFault bound fault` : the bound is no numeral, or one that is too large.
* `FieldFault field fault` : the first bound is wrong, else the last one, else their order.
* `LineFault line fault` : no `;`, else nothing in front of it, else what is wrong with the field.
* `ofLine?_names_first_fault` : the reader names these faults and no others, quotes parts of the
  line, and looks in front of the first `;` only.
-/

namespace CellWidth.Record

open Text (trim isBlank CutAt TrimsTo Trimmed trimsTo_iff)
open Text.Hex (Denotes IsDigitOf)

variable {line body field first last bound codes rest : List Char} {fault : RecordFault}

/-! ## Faults -/

/-- What is wrong with a trimmed bound. It is no numeral, or the numeral of a number that is no code
value, or of one that is no code point. -/
inductive BoundFault (bound : List Char) : RecordFault → Prop
  | empty : bound = [] → BoundFault bound (.badCode (.ofList bound))
  | sign {c : Char} : c ∈ bound → (∀ d, ¬ IsDigitOf c d) →
      BoundFault bound (.badCode (.ofList bound))
  | large {n : Nat} : Denotes bound n → 2 ^ 32 - 1 < n → BoundFault bound (.badCode (.ofList bound))
  | beyond {n : Nat} : Denotes bound n → 0x110000 ≤ n → n ≤ 2 ^ 32 - 1 →
      BoundFault bound (.beyondUnicode n)

/-- What is wrong with a trimmed code field that is not empty. The last bound is judged only if the
first one names a code point, and their order only if both do. -/
inductive FieldFault (field : List Char) : RecordFault → Prop
  | first {first last : List Char} {fault : RecordFault} :
      Bounds field first last → BoundFault first fault → FieldFault field fault
  | last {first last : List Char} {start : Nat} {fault : RecordFault} :
      Bounds field first last → NamesCodepoint first start → BoundFault last fault →
      FieldFault field fault
  | order {first last : List Char} {start stop : Nat} :
      Bounds field first last → NamesCodepoint first start → NamesCodepoint last stop →
      stop < start → FieldFault field (.reversed start stop)

/-- What is wrong with a line. -/
inductive LineFault (line : List Char) : RecordFault → Prop
  | separator {body : List Char} : DataLine line body → ';' ∉ body →
      LineFault line .missingSeparator
  | blank {body codes rest : List Char} : DataLine line body → body = codes ++ ';' :: rest →
      ';' ∉ codes → (∀ c ∈ codes, isBlank c = true) → LineFault line .emptyCode
  | field {body codes rest field : List Char} {fault : RecordFault} : DataLine line body →
      body = codes ++ ';' :: rest → ';' ∉ codes → TrimsTo codes field → field ≠ [] →
      FieldFault field fault → LineFault line fault

/-! ## Bounds and fields -/

/-- What is read as no number is empty or holds a sign that is no digit. -/
theorem boundFault_of_value?_eq_none (h : Text.Hex.value? bound = none) :
    BoundFault bound (.badCode (.ofList bound)) := by
  rcases Text.Hex.value?_eq_none_iff.1 h with hempty | ⟨c, hc, hdigit⟩
  · exact .empty hempty
  · exact .sign hc hdigit

theorem codepoint?_eq_error_iff : codepoint? bound = .error fault ↔ BoundFault bound fault := by
  have hlimit : codeLimit = 2 ^ 32 := rfl
  have hlast : lastCodepoint = 0x10FFFF := rfl
  constructor
  · intro h
    unfold codepoint? at h
    split at h
    · next hnone =>
      cases h
      exact boundFault_of_value?_eq_none hnone
    · next n hn =>
      have hdenotes : Denotes bound n := Text.Hex.value?_eq_some_iff.1 hn
      split at h
      · cases h
        exact .large hdenotes (by omega)
      split at h
      · cases h
        exact .beyond hdenotes (by omega) (by omega)
      · cases h
  · intro h
    cases h with
    | empty hempty =>
      rw [codepoint?, Text.Hex.value?_eq_none_iff.2 (.inl hempty)]
    | sign hc hdigit =>
      rw [codepoint?, Text.Hex.value?_eq_none_iff.2 (.inr ⟨_, hc, hdigit⟩)]
    | large hdenotes hlarge =>
      rw [codepoint?, Text.Hex.value?_eq_some_iff.2 hdenotes]
      exact if_pos (by omega)
    | beyond hdenotes hlow hhigh =>
      rw [codepoint?, Text.Hex.value?_eq_some_iff.2 hdenotes]
      simp only
      rw [if_neg (by omega), if_pos (by omega)]

theorem Bounds.bounds?_eq_error_iff (h : Bounds field first last) :
    bounds? field = .error fault ↔
      BoundFault first fault ∨ ∃ start, NamesCodepoint first start ∧ BoundFault last fault := by
  simp only [h.bounds?_eq, ← codepoint?_eq_error_iff, ← codepoint?_eq_ok_iff]
  cases codepoint? first <;> cases codepoint? last <;>
    simp [bind, Except.bind, pure, Except.pure]

theorem range?_nil : range? [] = .error .emptyCode :=
  if_pos rfl

/-- Two code points make no range only if they are reversed: the code values go further. -/
theorem range?_eq_error_iff (hne : field ≠ []) :
    range? field = .error fault ↔ FieldFault field fault := by
  have hlimit : lastCodepoint < codeLimit := by decide
  constructor
  · intro h
    obtain ⟨first, last, hbounds⟩ := exists_bounds field
    rw [range?, if_neg hne] at h
    split at h
    · next found hread =>
      cases h
      rcases hbounds.bounds?_eq_error_iff.1 hread with hfirst | ⟨start, hstart, hlast⟩
      · exact .first hbounds hfirst
      · exact .last hbounds hstart hlast
    · next start stop hread =>
      obtain ⟨hstart, hstop⟩ := hbounds.bounds?_eq_ok_iff.1 hread
      split at h
      · cases h
      · next hnone =>
        cases h
        have hcase := CodeRange.ofBounds?_eq_none_iff.1 hnone
        have hle : stop ≤ lastCodepoint := hstop.le_last
        exact .order hbounds hstart hstop (by omega)
  · intro h
    rw [range?, if_neg hne]
    cases h with
    | first hbounds hfirst =>
      rw [hbounds.bounds?_eq_error_iff.2 (.inl hfirst)]
    | last hbounds hstart hlast =>
      rw [hbounds.bounds?_eq_error_iff.2 (.inr ⟨_, hstart, hlast⟩)]
    | order hbounds hstart hstop hlt =>
      rw [hbounds.bounds?_eq_ok_iff.2 ⟨hstart, hstop⟩]
      simp only [CodeRange.ofBounds?_eq_none_iff.2 (.inl hlt)]

/-! ## Lines -/

theorem ofFields?_separated_eq_error_iff (h : ';' ∉ codes) :
    ofFields? (codes ++ ';' :: rest) = .error fault ↔ range? (trim codes) = .error fault := by
  rw [ofFields?_separated h]
  cases range? (trim codes) <;> simp [Except.map]

theorem DataLine.ofLine?_eq_error_iff (h : DataLine line body) :
    ofLine? line = .error fault ↔ ofFields? body = .error fault := by
  rw [h.ofLine?_eq]
  cases ofFields? body <;> simp [Except.map]

theorem ofLine?_eq_error_iff : ofLine? line = .error fault ↔ LineFault line fault := by
  constructor
  · intro h
    rcases skipped_or_dataLine line with hskipped | ⟨body, hdata⟩
    · rw [hskipped.ofLine?_eq] at h
      cases h
    rw [hdata.ofLine?_eq_error_iff] at h
    by_cases hmem : ';' ∈ body
    · obtain ⟨codes, rest, hbody, hcodes⟩ := List.eq_append_cons_of_mem hmem
      rw [hbody, ofFields?_separated_eq_error_iff hcodes] at h
      by_cases hblank : trim codes = []
      · rw [hblank, range?_nil] at h
        cases h
        exact .blank hdata hbody hcodes (Text.trim_eq_nil_iff.1 hblank)
      · exact .field hdata hbody hcodes (Text.trimsTo_trim codes) hblank
          ((range?_eq_error_iff hblank).1 h)
    · rw [ofFields?_of_not_mem hmem] at h
      cases h
      exact .separator hdata hmem
  · intro h
    cases h with
    | separator hdata hmem =>
      rw [hdata.ofLine?_eq_error_iff, ofFields?_of_not_mem hmem]
    | blank hdata hbody hcodes hblank =>
      rw [hdata.ofLine?_eq_error_iff, hbody, ofFields?_separated_eq_error_iff hcodes,
        Text.trim_eq_nil_iff.2 hblank, range?_nil]
    | field hdata hbody hcodes htrims hne hfault =>
      rw [hdata.ofLine?_eq_error_iff, hbody, ofFields?_separated_eq_error_iff hcodes,
        trimsTo_iff.1 htrims]
      exact (range?_eq_error_iff hne).2 hfault

/-- What is wrong with a field is never that it, or the separator behind it, is missing. -/
theorem FieldFault.ne (h : FieldFault field fault) :
    fault ≠ .missingSeparator ∧ fault ≠ .emptyCode := by
  have hbound {bound : List Char} (hfault : BoundFault bound fault) :
      fault ≠ .missingSeparator ∧ fault ≠ .emptyCode := by
    cases hfault <;> simp
  cases h with
  | first _ hfirst => exact hbound hfirst
  | last _ _ hlast => exact hbound hlast
  | order => simp

/-- The line has no separator. -/
theorem lineFault_missingSeparator_iff :
    LineFault line .missingSeparator ↔ ∃ body, DataLine line body ∧ ';' ∉ body := by
  constructor
  · intro h
    cases h with
    | separator hdata hmem => exact ⟨_, hdata, hmem⟩
    | field _ _ _ _ _ hfault => exact absurd rfl hfault.ne.1
  · rintro ⟨body, hdata, hmem⟩
    exact .separator hdata hmem

/-- The line has a separator with nothing in front of it. -/
theorem lineFault_emptyCode_iff :
    LineFault line .emptyCode ↔ ∃ codes rest, DataLine line (codes ++ ';' :: rest) ∧
      ';' ∉ codes ∧ ∀ c ∈ codes, isBlank c = true := by
  constructor
  · intro h
    cases h with
    | blank hdata hbody hmem hblank => exact ⟨_, _, hbody ▸ hdata, hmem, hblank⟩
    | field _ _ _ _ _ hfault => exact absurd rfl hfault.ne.2
  · rintro ⟨codes, rest, hdata, hmem, hblank⟩
    exact .blank hdata rfl hmem hblank

/-! ## What a fault quotes -/

/-- The bounds of a trimmed field are trimmed parts of it. -/
theorem Bounds.trimmed_infixes (h : Bounds field first last) (htrimmed : Trimmed field) :
    (Trimmed first ∧ first <:+: field) ∧ Trimmed last ∧ last <:+: field := by
  cases h with
  | single _ => exact ⟨⟨htrimmed, List.infix_rfl⟩, htrimmed, List.infix_rfl⟩
  | @pair before behind _ _ hcut hfirst hlast =>
    have hbefore : before <:+: field :=
      ⟨[], ['.', '.'] ++ behind, by rw [hcut.text_eq, List.nil_append, List.append_assoc]⟩
    have hbehind : behind <:+: field :=
      ⟨before ++ ['.', '.'], [], by rw [hcut.text_eq, List.append_nil]⟩
    exact ⟨⟨hfirst.trimmed, hfirst.isInfix.trans hbefore⟩, hlast.trimmed,
      hlast.isInfix.trans hbehind⟩

theorem BoundFault.text_eq {text : String} (h : BoundFault bound (.badCode text)) :
    text.toList = bound := by
  cases h <;> exact String.toList_ofList

/-- The text that is quoted as no code is a trimmed part of the line. -/
theorem LineFault.quotes {text : String} (h : LineFault line (.badCode text)) :
    Trimmed text.toList ∧ text.toList <:+: line := by
  cases h with
  | @field body codes rest field _ hdata hbody hmem htrims hne hfault =>
    have hcodes : codes <:+: body := ⟨[], ';' :: rest, by rw [hbody, List.nil_append]⟩
    have hfield : field <:+: line := (htrims.isInfix.trans hcodes).trans hdata.trims.isInfix
    cases hfault with
    | first hbounds hfirst =>
      obtain ⟨⟨htrimmed, hpart⟩, -⟩ := hbounds.trimmed_infixes htrims.trimmed
      rw [hfirst.text_eq]
      exact ⟨htrimmed, hpart.trans hfield⟩
    | last hbounds _ hlast =>
      obtain ⟨-, htrimmed, hpart⟩ := hbounds.trimmed_infixes htrims.trimmed
      rw [hlast.text_eq]
      exact ⟨htrimmed, hpart.trans hfield⟩

/-! ## What follows the separator -/

/-- The text in front of the first separator tells whether the line is a comment, and what is wrong
with it. -/
theorem ofLine?_separated_eq_error_iff (hmem : ';' ∉ codes) :
    ofLine? (codes ++ ';' :: rest) = .error fault ↔
      (∀ comment, Text.trimStart codes ≠ '#' :: comment) ∧ range? (trim codes) = .error fault := by
  by_cases hcomment : ∃ comment, Text.trimStart codes = '#' :: comment
  · have hskipped : Skipped (codes ++ ';' :: rest) := by
      obtain ⟨comment, hstart⟩ := hcomment
      have htrim := Text.trim_append_cons (c := ';') (by decide) codes rest
      rw [hstart] at htrim
      exact ⟨_, trimsTo_iff.2 htrim, .inr ⟨_, rfl⟩⟩
    rw [hskipped.ofLine?_eq]
    simp [hcomment]
  · rw [not_exists] at hcomment
    have hfirst : (codes.find? fun c => !isBlank c) ≠ some '#' := fun hfirst => by
      rw [← Text.head?_trimStart] at hfirst
      obtain ⟨comment, hstart⟩ := List.head?_eq_some_iff.1 hfirst
      exact hcomment comment hstart
    rw [ofLine?_separated hmem hfirst]
    cases range? (trim codes) <;> simp [Except.map, hcomment]

/-- **What is refused, and why.** A line is refused for its fault: no separator, else nothing in
front of the first one, else what is wrong with the code field. The text that a fault quotes is a
trimmed part of the line, and what follows the first separator has no say in it. -/
theorem ofLine?_names_first_fault :
    (∀ line fault, ofLine? line = .error fault ↔ LineFault line fault) ∧
    (∀ line, LineFault line .missingSeparator ↔ ∃ body, DataLine line body ∧ ';' ∉ body) ∧
    (∀ line, LineFault line .emptyCode ↔ ∃ codes rest, DataLine line (codes ++ ';' :: rest) ∧
      ';' ∉ codes ∧ ∀ c ∈ codes, isBlank c = true) ∧
    (∀ line text, LineFault line (.badCode text) →
      Trimmed text.toList ∧ text.toList <:+: line) ∧
    ∀ codes rest rest' fault, ';' ∉ codes →
      (LineFault (codes ++ ';' :: rest) fault ↔ LineFault (codes ++ ';' :: rest') fault) := by
  refine ⟨fun line fault => ofLine?_eq_error_iff, fun line => lineFault_missingSeparator_iff,
    fun line => lineFault_emptyCode_iff, fun line text => LineFault.quotes, ?_⟩
  intro codes rest rest' fault hmem
  rw [← ofLine?_eq_error_iff, ← ofLine?_eq_error_iff, ofLine?_separated_eq_error_iff hmem,
    ofLine?_separated_eq_error_iff hmem]

/-- The first bound lies beyond the code points and the last one is no code value; a sign stands in
front of the last bound; the bounds are reversed, whatever the label is. -/
theorem ofLine?_names_first_fault_of_lines :
    LineFault "110000 .. FFFFFFFFF ; Mn".toList (.beyondUnicode 0x110000) ∧
    (LineFault " 0300.. +36F ;Mn".toList (.badCode "+36F") ∧
      Trimmed "+36F".toList ∧ "+36F".toList <:+: " 0300.. +36F ;Mn".toList) ∧
    ';' ∉ "36F..300".toList ∧
    (LineFault ("36F..300".toList ++ ';' :: "Mn".toList) (.reversed 0x36F 0x300) ↔
      LineFault ("36F..300".toList ++ ';' :: "#;110000".toList) (.reversed 0x36F 0x300)) := by
  rcases ofLine?_names_first_fault with ⟨hnames, -, -, hquotes, hbehind⟩
  have hsign : LineFault " 0300.. +36F ;Mn".toList (.badCode "+36F") :=
    (hnames _ _).1 (by cbv)
  have hcodes : ';' ∉ "36F..300".toList := by decide
  exact ⟨(hnames _ _).1 (by cbv), ⟨hsign, hquotes _ _ hsign⟩, hcodes, hbehind _ _ _ _ hcodes⟩

end CellWidth.Record
