import Mathlib
import CellWidth.Proofs.Record.Refusal
import CellWidth.Proofs.Word

/-!
# What a bound is judged by

A bound is judged by the number that it stands for and by nothing else. That number has no bound,
while the reader needs 32 bits only: a numeral that does not fit is refused as no code value, and
not taken for the code value that its last bits would make.

* `codepoint?_eq_beyondUnicode_iff`, `codepoint?_eq_badCode_iff` : the two faults, by the number.
* `codepointInWord?` : the reader that keeps what it has read in a word of 32 bits.
  `codepoint?_eq_inWord` : it is the same reader.
* `codepoint?_judges_number` : all of this, and that spelling does not count.
-/

namespace CellWidth.Record

open Text.Hex (Denotes signs)

variable {bound : List Char} {code : Nat}

/-! ## The two faults -/

/-- A code value that is no code point. -/
theorem codepoint?_eq_beyondUnicode_iff :
    codepoint? bound = .error (.beyondUnicode code) ↔
      Denotes bound code ∧ 0x10FFFF < code ∧ code < 2 ^ 32 := by
  rw [codepoint?_eq_error_iff]
  constructor
  · intro h
    cases h with
    | beyond hdenotes hlow hhigh => exact ⟨hdenotes, hlow, by omega⟩
  · rintro ⟨hdenotes, hlow, hhigh⟩
    exact .beyond hdenotes hlow (by omega)

/-- All else is quoted as it stands: what is no numeral, and what is no code value. -/
theorem codepoint?_eq_badCode_iff {text : String} :
    codepoint? bound = .error (.badCode text) ↔
      text = .ofList bound ∧ ∀ code, Denotes bound code → 2 ^ 32 ≤ code := by
  rw [codepoint?_eq_error_iff]
  constructor
  · intro h
    cases h with
    | empty hempty => exact ⟨rfl, fun code hdenotes => absurd hempty hdenotes.ne_nil⟩
    | sign hmem hdigit =>
      refine ⟨rfl, fun code hdenotes => ?_⟩
      exact absurd hmem (hdenotes.not_mem (Text.Hex.digitValue?_eq_none_iff.2 hdigit))
    | large hlarge hlimit =>
      refine ⟨rfl, fun code hdenotes => ?_⟩
      rw [hdenotes.unique hlarge]
      omega
  · rintro ⟨rfl, hlarge⟩
    cases hvalue : Text.Hex.value? bound with
    | none => exact boundFault_of_value?_eq_none hvalue
    | some n =>
      have hdenotes : Denotes bound n := Text.Hex.value?_eq_some_iff.1 hvalue
      have hlimit : 2 ^ 32 ≤ n := hlarge n hdenotes
      exact .large hdenotes (by omega)

/-! ## Reading in a word -/

/-- The code point that a bound names, read digit by digit in a word of 32 bits. -/
def codepointInWord? (bound : List Char) : Except RecordFault Nat :=
  match Word.value? 32 bound with
  | none => .error (.badCode (.ofList bound))
  | some code => if code ≤ lastCodepoint then .ok code else .error (.beyondUnicode code)

theorem codepoint?_eq_inWord (bound : List Char) : codepoint? bound = codepointInWord? bound := by
  have hlast : lastCodepoint = 0x10FFFF := rfl
  unfold codepointInWord?
  split
  · next hnone =>
    refine codepoint?_eq_badCode_iff.2 ⟨rfl, fun code hdenotes => ?_⟩
    by_contra hlt
    have hread := Word.value?_eq_some_iff_fits.2 ⟨hdenotes, Nat.not_le.1 hlt⟩
    rw [hnone] at hread
    cases hread
  · next code hread =>
    obtain ⟨hdenotes, hfits⟩ := Word.value?_eq_some_iff_fits.1 hread
    split
    · next hle => exact codepoint?_eq_ok_iff.2 ⟨hdenotes, hle⟩
    · next hlt => exact codepoint?_eq_beyondUnicode_iff.2 ⟨hdenotes, by omega, hfits⟩

/-! ## Judging bounds -/

/-- **What a bound is judged by.** A text of digits stands for a number, whatever its length. Up to
the last code point the bound names that number; beyond it, but within 32 bits, the number is
refused; any other text is refused as it stands. Reading in 32 bits gives the same, and neither the
case of letters nor zeros in front change which number is named or refused. -/
theorem codepoint?_judges_number :
    (∀ bound code, codepoint? bound = .ok code ↔ Denotes bound code ∧ code ≤ 0x10FFFF) ∧
    (∀ bound code, codepoint? bound = .error (.beyondUnicode code) ↔
      Denotes bound code ∧ 0x10FFFF < code ∧ code < 2 ^ 32) ∧
    (∀ bound text, codepoint? bound = .error (.badCode text) ↔
      text = .ofList bound ∧ ∀ code, Denotes bound code → 2 ^ 32 ≤ code) ∧
    (∀ bound code, Denotes bound code → 2 ^ 32 ≤ code →
      codepoint? bound = .error (.badCode (.ofList bound))) ∧
    (∀ bound, (∃ code, Denotes bound code) ↔ bound ≠ [] ∧ ∀ c ∈ bound, c ∈ signs) ∧
    (∀ bound, codepoint? bound = codepointInWord? bound) ∧
    ∀ bound respelled zeros, bound ≠ [] →
      respelled.map Char.toLower = bound.map Char.toLower → ∀ code,
      (codepoint? (List.replicate zeros '0' ++ respelled) = .ok code ↔
        codepoint? bound = .ok code) ∧
      (codepoint? (List.replicate zeros '0' ++ respelled) = .error (.beyondUnicode code) ↔
        codepoint? bound = .error (.beyondUnicode code)) := by
  refine ⟨fun bound code => ?_, fun bound code => codepoint?_eq_beyondUnicode_iff,
    fun bound text => codepoint?_eq_badCode_iff, fun bound code hdenotes hlarge => ?_,
    fun bound => Text.Hex.exists_denotes_iff, codepoint?_eq_inWord, ?_⟩
  · rw [codepoint?_eq_ok_iff]
    exact ⟨fun h => ⟨h.denotes, h.le_last⟩, fun h => ⟨h.1, h.2⟩⟩
  · refine codepoint?_eq_badCode_iff.2 ⟨rfl, fun code' hdenotes' => ?_⟩
    rwa [hdenotes'.unique hdenotes]
  · intro bound respelled zeros hne hletters code
    have hspelling := Text.Hex.denotes_respelled_iff (n := code) hne hletters zeros
    have hnames : NamesCodepoint (List.replicate zeros '0' ++ respelled) code ↔
        NamesCodepoint bound code :=
      ⟨fun h => ⟨hspelling.1 h.denotes, h.le_last⟩, fun h => ⟨hspelling.2 h.denotes, h.le_last⟩⟩
    rw [codepoint?_eq_ok_iff, codepoint?_eq_ok_iff, codepoint?_eq_beyondUnicode_iff,
      codepoint?_eq_beyondUnicode_iff, hspelling]
    exact ⟨hnames, Iff.rfl⟩

/-- A numeral whose last 32 bits would make `U+0041`, behind zeros; the last code point, and a code
value beyond it, in other letters and behind more zeros than 32 bits hold digits. -/
theorem codepoint?_judges_number_of_numerals :
    (Denotes "0000100000041".toList (2 ^ 32 + 0x41) ∧ 2 ^ 32 ≤ 2 ^ 32 + 0x41 ∧
      codepoint? "0000100000041".toList = .error (.badCode "0000100000041")) ∧
    ("10FFFF".toList ≠ [] ∧ "10fFfF".toList.map Char.toLower = "10FFFF".toList.map Char.toLower ∧
      codepoint? (List.replicate 9 '0' ++ "10fFfF".toList) = .ok 0x10FFFF) ∧
    ("abcdef".toList ≠ [] ∧ "AbCdEf".toList.map Char.toLower = "abcdef".toList.map Char.toLower ∧
      codepoint? (List.replicate 9 '0' ++ "AbCdEf".toList) = .error (.beyondUnicode 0xABCDEF)) := by
  rcases codepoint?_judges_number with ⟨-, -, -, hlarge, -, -, hspelling⟩
  have hdenotes : Denotes "0000100000041".toList (2 ^ 32 + 0x41) :=
    Text.Hex.value?_eq_some_iff.1 (by cbv)
  have hlimit : 2 ^ 32 ≤ 2 ^ 32 + 0x41 := Nat.le_add_right _ _
  have hlast : codepoint? "10FFFF".toList = .ok 0x10FFFF := by cbv
  have hlastLetters : "10fFfF".toList.map Char.toLower = "10FFFF".toList.map Char.toLower := by
    decide
  have hbeyond : codepoint? "abcdef".toList = .error (.beyondUnicode 0xABCDEF) := by cbv
  have hbeyondLetters : "AbCdEf".toList.map Char.toLower = "abcdef".toList.map Char.toLower := by
    decide
  refine ⟨⟨hdenotes, hlimit, hlarge _ _ hdenotes hlimit⟩, ⟨by decide, hlastLetters, ?_⟩, by decide,
    hbeyondLetters, ?_⟩
  · exact (hspelling _ _ 9 (by decide) hlastLetters _).1.2 hlast
  · exact (hspelling _ _ 9 (by decide) hbeyondLetters _).2.2 hbeyond

end CellWidth.Record
