import CellWidth.CodeRange
import CellWidth.Text.Blank
import CellWidth.Text.Cut

/-!
# Data lines

A line of a property file reads `START..STOP ; LABEL # comment` or `CODE ; LABEL # comment`.
Blanks do not count at the ends of the line, of the code field, of each bound and of the label.

* `Record.ofLine? line` : the record of a line, nothing for a blank line or a comment, or the
  first fault from left to right: separator, code field, start, stop, order of the bounds.
* The label is the rest of the line up to a comment. It may be empty and may hold further
  separators; whether it means anything is for a property to say.
-/

namespace CellWidth

/-- Why a line is no record. -/
inductive RecordFault where
  /-- No `;` stands in the line. -/
  | missingSeparator
  /-- Nothing stands before the `;`. -/
  | emptyCode
  /-- A bound is no hexadecimal numeral, or one of more than 32 bits. -/
  | badCode (text : String)
  /-- A bound is a code value, but lies beyond the last code point. -/
  | beyondUnicode (code : Nat)
  /-- The first bound is greater than the second. -/
  | reversed (start stop : Nat)
deriving DecidableEq, Repr

/-- A code value as it stands in fault texts: `0x` and upper-case digits without padding. -/
def RecordFault.displayCode (code : Nat) : String :=
  "0x" ++ .ofList (Text.Hex.digits .upper code)

/-- The wording of a fault. -/
def RecordFault.message : RecordFault → String
  | missingSeparator => "missing `;` separator"
  | emptyCode => "empty codepoint field"
  | badCode text => "invalid hex codepoint `" ++ text ++ "`"
  | beyondUnicode code => "codepoint " ++ displayCode code ++ " is beyond U+10FFFF"
  | reversed start stop =>
    "range start " ++ displayCode start ++ " is past its stop " ++ displayCode stop

/-- What one data line says: these code points have this property value. -/
structure Record where
  range : CodeRange
  label : String
deriving DecidableEq, Repr

namespace Record

open Text (trim cut?)

/-- The code point that a bound names. -/
def codepoint? (bound : List Char) : Except RecordFault Nat :=
  match Text.Hex.value? bound with
  | none => .error (.badCode (.ofList bound))
  | some code =>
    if codeLimit ≤ code then .error (.badCode (.ofList bound))
    else if lastCodepoint < code then .error (.beyondUnicode code)
    else .ok code

/-- The two bounds of a code field, cut at its first `..`; a single code is both. -/
def bounds? (field : List Char) : Except RecordFault (Nat × Nat) :=
  match cut? ['.', '.'] field with
  | some (start, stop) => do
    let start ← codepoint? (trim start)
    let stop ← codepoint? (trim stop)
    return (start, stop)
  | none => do
    let code ← codepoint? field
    return (code, code)

/-- The range of a trimmed code field. -/
def range? (field : List Char) : Except RecordFault CodeRange :=
  if field = [] then .error .emptyCode
  else
    match bounds? field with
    | .error fault => .error fault
    | .ok (start, stop) =>
      match CodeRange.ofBounds? start stop with
      | some range => .ok range
      | none => .error (.reversed start stop)

/-- What stands behind the separator, up to a comment. -/
def labelOf (rest : List Char) : String :=
  .ofList (trim (rest.takeWhile (· ≠ '#')))

/-- The record of a trimmed line that is neither empty nor a comment. -/
def ofFields? (line : List Char) : Except RecordFault Record :=
  match cut? [';'] line with
  | none => .error .missingSeparator
  | some (field, rest) =>
    match range? (trim field) with
    | .error fault => .error fault
    | .ok range => .ok ⟨range, labelOf rest⟩

/-- The record of a line; nothing for a line that is blank or a comment. -/
def ofLine? (line : List Char) : Except RecordFault (Option Record) :=
  match trim line with
  | [] => .ok none
  | c :: line => if c = '#' then .ok none else (ofFields? (c :: line)).map some

end Record

end CellWidth
