/-!
# UTF-8

Bytes to characters and back.

* `scan bytes` reads one byte at a time and gives one item per character, and one item `none` per
  malformed run. A run ends before the first byte that cannot continue it, and that byte starts
  anew, so each `none` is a longest beginning of some character or a single stray byte.
* `decode? bytes` : the text, if no run is malformed.
* `decodeLossy bytes` : the text with U+FFFD for each malformed run.
* `first? bytes` : the character that the first bytes stand for, whatever follows them.
* `encode text` : the bytes of a text; `decode?` accepts these and no others (`Utf8.Lemmas`).

Overlong forms, surrogates and values beyond U+10FFFF are malformed: the first byte fixes the
bounds of the second.
-/

namespace CellWidth.Text.Utf8

/-- Where a reader of bytes stands. -/
inductive Position where
  /-- Between two characters. -/
  | between
  /-- Inside a character of payload `bits` so far: the next byte lies in `low` to `high`, and
  `owed` more follow it. -/
  | inside (owed low high bits : Nat)
deriving DecidableEq, Repr

/-- A byte of a character's beginning: the items it completes, and where the reader stands after
it. -/
def start (b : Nat) : List (Option Char) × Position :=
  if b < 0x80 then ([some (Char.ofNat b)], .between)
  else if b < 0xC2 then ([none], .between)
  else if b < 0xE0 then ([], .inside 0 0x80 0xBF (b - 0xC0))
  else if b < 0xF0 then
    ([], .inside 1 (if b = 0xE0 then 0xA0 else 0x80) (if b = 0xED then 0x9F else 0xBF) (b - 0xE0))
  else if b < 0xF5 then
    ([], .inside 2 (if b = 0xF0 then 0x90 else 0x80) (if b = 0xF4 then 0x8F else 0xBF) (b - 0xF0))
  else ([none], .between)

/-- One byte: the items it completes, and where the reader stands after it. -/
def step : Position → Nat → List (Option Char) × Position
  | .between, b => start b
  | .inside owed low high bits, b =>
    if low ≤ b ∧ b ≤ high then
      match owed with
      | 0 => ([some (Char.ofNat (64 * bits + (b - 0x80)))], .between)
      | owed + 1 => ([], .inside owed 0x80 0xBF (64 * bits + (b - 0x80)))
    else (none :: (start b).1, (start b).2)

/-- The items of a byte text, read from a given position. A text that ends inside a character
ends with a malformed run. -/
def scanFrom : Position → List UInt8 → List (Option Char)
  | .between, [] => []
  | .inside .., [] => [none]
  | position, b :: bytes =>
    (step position b.toNat).1 ++ scanFrom (step position b.toNat).2 bytes

/-- The items of a byte text: its characters, and `none` for each malformed run. -/
def scan (bytes : List UInt8) : List (Option Char) :=
  scanFrom .between bytes

/-- The text of some items, if none is malformed. -/
def wellFormed? : List (Option Char) → Option (List Char)
  | [] => some []
  | none :: _ => none
  | some c :: items => (wellFormed? items).map (c :: ·)

/-- The text that the bytes stand for, if they are well-formed. -/
def decode? (bytes : List UInt8) : Option (List Char) :=
  wellFormed? (scan bytes)

/-- The text that the bytes stand for, with U+FFFD for each malformed run. -/
def decodeLossy (bytes : List UInt8) : String :=
  .ofList ((scan bytes).map fun item => item.getD '\uFFFD')

/-- The character that a byte text begins with; no character is longer than four bytes. -/
def first? (bytes : List UInt8) : Option Char :=
  [1, 2, 3, 4].findSome? fun size =>
    match decode? (bytes.take size) with
    | some [c] => some c
    | _ => none

/-- The bytes of a text. -/
def encode (text : String) : List UInt8 :=
  text.toList.flatMap String.utf8EncodeChar

end CellWidth.Text.Utf8
