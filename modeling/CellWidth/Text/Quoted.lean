import CellWidth.Text.Hex
import CellWidth.Text.Utf8
import CellWidth.Text.Visible

/-!
# Quoted texts

A byte text between double quotes in which nothing is hidden: double quotes, backslashes and the
usual control characters stand as two-character escapes, other hidden characters by their code
point, and bytes that belong to no character by their value. An apostrophe cannot end the text and
stands as itself.
-/

namespace CellWidth.Text

/-- A character as it stands between quotes. -/
def escape (c : Char) : String :=
  match c with
  | '\x00' => "\\0"
  | '\t' => "\\t"
  | '\n' => "\\n"
  | '\r' => "\\r"
  | '\\' => "\\\\"
  | '"' => "\\\""
  | c =>
    if isVisible c then .ofList [c]
    else "\\u\x7b" ++ .ofList (Hex.digits .lower c.toNat) ++ "\x7d"

/-- A byte that belongs to no character, as it stands between quotes. -/
def escapeByte (b : UInt8) : String :=
  "\\x" ++ .ofList (Hex.padded .upper 2 b.toNat)

/-- Bytes as they stand between quotes; `skip` of them belong to a character written before. -/
def escapeFrom : (skip : Nat) → List UInt8 → String
  | _, [] => ""
  | skip + 1, _ :: bytes => escapeFrom skip bytes
  | 0, b :: bytes =>
    match Utf8.first? (b :: bytes) with
    | some c => escape c ++ escapeFrom (c.utf8Size - 1) bytes
    | none => escapeByte b ++ escapeFrom 0 bytes

/-- A byte text between double quotes. -/
def quoted (bytes : List UInt8) : String :=
  "\"" ++ escapeFrom 0 bytes ++ "\""

/-- Quoted byte texts between square brackets. -/
def quotedList (texts : List (List UInt8)) : String :=
  "[" ++ ", ".intercalate (texts.map quoted) ++ "]"

end CellWidth.Text
