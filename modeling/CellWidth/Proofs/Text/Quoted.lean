import CellWidth.Text.Quoted
import CellWidth.Text.Utf8.Lemmas

/-!
# What stands between quotes

* `Escaped bytes text` : bytes are written character by character, and a byte that begins no
  character is written by its value.
* `escaped_escapeFrom` : this is what the writer does, which counts down the bytes of a character
  instead.
-/

namespace CellWidth.Text

/-- How bytes stand between quotes. -/
inductive Escaped : List UInt8 → String → Prop where
  | nil : Escaped [] ""
  | character {c : Char} {bytes : List UInt8} {text : String} : Escaped bytes text →
      Escaped (String.utf8EncodeChar c ++ bytes) (escape c ++ text)
  | stray {b : UInt8} {bytes : List UInt8} {text : String} :
      (∀ c rest, b :: bytes ≠ String.utf8EncodeChar c ++ rest) → Escaped bytes text →
      Escaped (b :: bytes) ("\\x" ++ .ofList (Hex.padded .upper 2 b.toNat) ++ text)

/-- The bytes behind the first of a character, and what follows them. -/
theorem drop_utf8Size_sub_one {c : Char} {b : UInt8} {bytes rest : List UInt8}
    (h : b :: bytes = String.utf8EncodeChar c ++ rest) : bytes.drop (c.utf8Size - 1) = rest := by
  have hsize : c.utf8Size = c.utf8Size - 1 + 1 := (Nat.sub_add_cancel c.utf8Size_pos).symm
  calc bytes.drop (c.utf8Size - 1)
    _ = (b :: bytes).drop c.utf8Size := by rw [hsize, List.drop_succ_cons, ← hsize]
    _ = rest := by rw [h, List.drop_left' (String.length_utf8EncodeChar c)]

/-- The writer passes over the bytes that it is to skip, and writes the others. -/
theorem escaped_drop (skip : Nat) (bytes : List UInt8) :
    Escaped (bytes.drop skip) (escapeFrom skip bytes) := by
  -- along the writer's own recursion
  induction skip, bytes using escapeFrom.induct with
  | case1 skip =>
    rw [List.drop_nil, escapeFrom]
    exact .nil
  | case2 skip b bytes ih => exact ih
  | case3 b bytes c hfirst ih =>
    rcases Utf8.first?_eq_some_iff.1 hfirst with ⟨rest, hrest⟩
    rw [drop_utf8Size_sub_one hrest] at ih
    rw [List.drop_zero, escapeFrom, hfirst, hrest]
    exact .character ih
  | case4 b bytes hfirst ih =>
    rw [List.drop_zero, escapeFrom, hfirst]
    refine .stray (fun c rest hrest => ?_) ih
    rw [Utf8.first?_eq_some_iff.2 ⟨rest, hrest⟩] at hfirst
    cases hfirst

theorem escaped_escapeFrom (bytes : List UInt8) : Escaped bytes (escapeFrom 0 bytes) :=
  escaped_drop 0 bytes

end CellWidth.Text
