import Mathlib.Data.List.Basic
import CellWidth.Text.Utf8.Lemmas

/-!
# ASCII bytes and lossy reading

* `mem_of_mem_encode_decodeLossy` : reading bytes with replacements and writing the text again
  brings in no ASCII byte that was not there.
* `decode?_append_singleton` : an ASCII byte behind a text is one more character, and does not make
  a text of what is none.
* `decodeLossy_encode` : the bytes of a text are read back without replacements.
-/

namespace CellWidth.Text.Utf8

/-! ## Where ASCII characters come from -/

theorem toNat_ofNat_of_valid {n : Nat} (h : n.isValidChar) : (Char.ofNat n).toNat = n := by
  rw [Char.ofNat, dif_pos h]
  exact UInt32.toNat_ofNatLT ..

/-- A reader inside a character completes one beyond ASCII, or none. -/
def Beyond : (owed low high bits : Nat) → Prop
  | 0, low, high, bits =>
    ∀ b, low ≤ b → b ≤ high → 0x80 ≤ (Char.ofNat (64 * bits + (b - 0x80))).toNat
  | owed + 1, low, high, bits =>
    ∀ b, low ≤ b → b ≤ high → Beyond owed 0x80 0xBF (64 * bits + (b - 0x80))

/-- The reader stands between two characters, or inside one beyond ASCII. -/
def Position.Sound : Position → Prop
  | .between => True
  | .inside owed low high bits => Beyond owed low high bits

theorem beyond_last {low high bits : Nat}
    (h : ∀ b, low ≤ b → b ≤ high →
      0x80 ≤ 64 * bits + (b - 0x80) ∧ (64 * bits + (b - 0x80)).isValidChar) :
    Beyond 0 low high bits := by
  intro b hlow hhigh
  rcases h b hlow hhigh with ⟨hbeyond, hvalid⟩
  rw [toNat_ofNat_of_valid hvalid]
  exact hbeyond

/-- The bounds that the first byte of a character sets keep out ASCII and surrogates. -/
theorem start_sound (b : Nat) : (start b).2.Sound := by
  unfold start
  split
  · trivial
  split
  · trivial
  split
  · refine beyond_last fun x hlow hhigh => ⟨by omega, .inl (by omega)⟩
  split
  · intro x hlow hhigh
    refine beyond_last fun y hlow' hhigh' => ?_
    have hsecond : 0x80 ≤ x ∧ x ≤ 0xBF ∧ (b = 0xE0 → 0xA0 ≤ x) ∧ (b = 0xED → x ≤ 0x9F) := by
      split at hlow <;> split at hhigh <;> omega
    refine ⟨by omega, ?_⟩
    show _ ∨ _
    omega
  split
  · intro x hlow hhigh y hlow' hhigh'
    refine beyond_last fun z hlow'' hhigh'' => ?_
    have hsecond : 0x80 ≤ x ∧ x ≤ 0xBF ∧ (b = 0xF0 → 0x90 ≤ x) ∧ (b = 0xF4 → x ≤ 0x8F) := by
      split at hlow <;> split at hhigh <;> omega
    refine ⟨by omega, ?_⟩
    show _ ∨ _
    omega
  · trivial

/-- The first byte of a character completes at most the character that it is. -/
theorem eq_of_mem_start {b : Nat} {c : Char} (h : some c ∈ (start b).1) : c.toNat = b := by
  unfold start at h
  split at h
  · next hb =>
    have hc : c = Char.ofNat b := by simpa using h
    rw [hc, toNat_ofNat_of_valid (.inl (by omega))]
  -- any other first byte completes nothing, or a malformed run
  · split at h
    · simp at h
    split at h
    · simp at h
    split at h
    · simp at h
    split at h <;> simp at h

/-- One byte more: the reader stays sound, and completes no ASCII character but the byte. -/
theorem step_sound {position : Position} (hsound : position.Sound) (b : Nat) :
    (step position b).2.Sound ∧
      ∀ c : Char, some c ∈ (step position b).1 → c.toNat < 0x80 → c.toNat = b := by
  cases position with
  | between => exact ⟨start_sound b, fun c hc _ => eq_of_mem_start hc⟩
  | inside owed low high bits =>
    unfold step
    dsimp only
    split
    · next hb =>
      cases owed with
      | zero =>
        refine ⟨trivial, fun c hc hascii => ?_⟩
        have heq : c = Char.ofNat (64 * bits + (b - 0x80)) := by simpa using hc
        have hbeyond := hsound b hb.1 hb.2
        rw [← heq] at hbeyond
        omega
      | succ owed =>
        refine ⟨hsound b hb.1 hb.2, fun c hc _ => ?_⟩
        simp at hc
    · refine ⟨start_sound b, fun c hc _ => eq_of_mem_start ?_⟩
      simpa using hc

/-- An ASCII character that is read is a byte of what was read. -/
theorem mem_of_mem_scanFrom {position : Position} (hsound : position.Sound) {bytes : List UInt8}
    {c : Char} (hc : c.toNat < 0x80) (h : some c ∈ scanFrom position bytes) :
    ∃ b ∈ bytes, b.toNat = c.toNat := by
  -- one byte after another; what the reader stands inside of is beyond ASCII
  induction bytes generalizing position with
  | nil => cases position <;> simp [scanFrom] at h
  | cons b bytes ih =>
    rcases step_sound hsound b.toNat with ⟨hnext, hitems⟩
    have hmem : some c ∈ (step position b.toNat).1 ∨
        some c ∈ scanFrom (step position b.toNat).2 bytes := by
      cases position <;> simpa [scanFrom] using h
    rcases hmem with hmem | hmem
    · exact ⟨b, List.mem_cons_self, (hitems c hmem hc).symm⟩
    · rcases ih hnext hmem with ⟨b', hb', heq⟩
      exact ⟨b', List.mem_cons_of_mem _ hb', heq⟩

/-- An ASCII byte of a character is the character. -/
theorem toNat_eq_of_mem_utf8EncodeChar {b : UInt8} {c : Char} (hb : b.toNat < 0x80)
    (h : b ∈ String.utf8EncodeChar c) : c.toNat = b.toNat := by
  rw [utf8EncodeChar_eq_bytesOf, bytesOf] at h
  -- the bytes of longer characters have their highest bit set
  split at h
  · next hc =>
    rw [List.mem_singleton.1 h, toNat_ofNat_of_lt (by omega)]
  split at h
  · simp only [List.mem_cons, List.not_mem_nil, or_false] at h
    rcases h with rfl | rfl <;> rw [toNat_ofNat_of_lt (by omega)] at hb <;> omega
  split at h
  · simp only [List.mem_cons, List.not_mem_nil, or_false] at h
    rcases h with rfl | rfl | rfl <;> rw [toNat_ofNat_of_lt (by omega)] at hb <;> omega
  · have hvalid := c.valid
    simp only [List.mem_cons, List.not_mem_nil, or_false] at h
    rcases h with rfl | rfl | rfl | rfl <;> rw [toNat_ofNat_of_lt (by omega)] at hb <;> omega

theorem encode_ofList (text : List Char) :
    encode (.ofList text) = text.flatMap String.utf8EncodeChar := by
  rw [encode, String.toList_ofList]

/-- Lossy reading brings in no ASCII byte. -/
theorem mem_of_mem_encode_decodeLossy {b : UInt8} {bytes : List UInt8} (hb : b.toNat < 0x80)
    (h : b ∈ encode (decodeLossy bytes)) : b ∈ bytes := by
  rw [decodeLossy, encode_ofList, List.mem_flatMap] at h
  rcases h with ⟨c, hc, hbc⟩
  rcases List.mem_map.1 hc with ⟨item, hitem, hget⟩
  have heq := toNat_eq_of_mem_utf8EncodeChar hb hbc
  cases item with
  | none =>
    -- the replacement is beyond ASCII
    subst hget
    have hreplacement : ('\uFFFD').toNat = 0xFFFD := by decide
    rw [Option.getD_none, hreplacement] at heq
    omega
  | some c' =>
    obtain rfl : c' = c := hget
    have hstart : Position.between.Sound := trivial
    rcases mem_of_mem_scanFrom hstart (by omega) hitem with ⟨b', hb', heq'⟩
    rwa [← UInt8.toNat_inj.1 (heq'.trans heq)]

/-! ## An ASCII byte at the end -/

theorem utf8EncodeChar_of_ascii {b : UInt8} (hb : b.toNat < 0x80) :
    String.utf8EncodeChar (Char.ofNat b.toNat) = [b] := by
  rw [utf8EncodeChar_ofNat (.inl (by omega)), bytesOf, if_pos (by omega), ofNat_eq_of_toNat rfl]

/-- An ASCII byte at the end is one more character, if the bytes in front of it are a text. -/
theorem decode?_append_singleton {b : UInt8} (hb : b.toNat < 0x80) (bytes : List UInt8) :
    decode? (bytes ++ [b]) = (decode? bytes).map (· ++ [Char.ofNat b.toNat]) := by
  refine Option.ext fun text => ?_
  simp only [Option.map_eq_some_iff, decode?_eq_some_iff]
  constructor
  · intro h
    rcases List.eq_nil_or_concat text with rfl | ⟨front, c, rfl⟩
    · simp at h
    rw [List.concat_eq_append] at h ⊢
    rw [List.flatMap_append, List.flatMap_singleton] at h
    -- the last byte belongs to the last character, which is therefore this byte
    have hlast : b ∈ String.utf8EncodeChar c := by
      have hne : String.utf8EncodeChar c ≠ [] := String.utf8EncodeChar_ne_nil
      have hgetLast := congrArg List.getLast? h
      rw [List.getLast?_concat, List.getLast?_append_of_ne_nil _ hne] at hgetLast
      exact List.mem_of_getLast? hgetLast.symm
    have hc : c = Char.ofNat b.toNat := by
      rw [← toNat_eq_of_mem_utf8EncodeChar hb hlast, Char.ofNat_toNat]
    rw [hc, utf8EncodeChar_of_ascii hb] at h
    exact ⟨front, List.append_cancel_right h, hc ▸ rfl⟩
  · intro h
    rcases h with ⟨front, rfl, rfl⟩
    rw [List.flatMap_append, List.flatMap_singleton, utf8EncodeChar_of_ascii hb]

/-! ## Texts without malformed runs -/

theorem eq_map_some_of_wellFormed? {items : List (Option Char)} {text : List Char}
    (h : wellFormed? items = some text) : items = text.map some := by
  induction items generalizing text with
  | nil => cases h; rfl
  | cons item items ih =>
    cases item with
    | none => cases h
    | some c =>
      rw [wellFormed?, Option.map_eq_some_iff] at h
      rcases h with ⟨rest, hrest, rfl⟩
      rw [ih hrest, List.map_cons]

/-- What is written is read back without replacements. -/
theorem decodeLossy_encode (text : String) : decodeLossy (encode text) = text := by
  have hscan : scan (encode text) = text.toList.map some :=
    eq_map_some_of_wellFormed? (wellFormed?_scan_encode text.toList)
  rw [decodeLossy, hscan, List.map_map]
  show String.ofList (text.toList.map id) = text
  rw [List.map_id, String.ofList_toList]

theorem encode_injective : Function.Injective encode :=
  Function.LeftInverse.injective decodeLossy_encode

theorem encode_append (a b : String) : encode (a ++ b) = encode a ++ encode b := by
  rw [encode, String.toList_append, List.flatMap_append, encode, encode]

end CellWidth.Text.Utf8
