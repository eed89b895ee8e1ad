import CellWidth.Text.Utf8

/-!
# UTF-8: reading is the inverse of writing

* `scanFrom_utf8EncodeChar` : the bytes of a character give that character and leave the reader
  between two characters.
* `first_of_wellFormed?` : what is read first is a character with its bytes, so that bytes without a
  malformed run are the bytes of the text read (`eq_encode_of_wellFormed?`).
* `decode?_eq_some_iff` : so the bytes of texts, and no others, are accepted, each with its text.
* `first?_eq_some_iff` : bytes begin with a character exactly if its bytes stand in front of them.
-/

namespace CellWidth.Text.Utf8

theorem toNat_ofNat_of_lt {n : Nat} (h : n < 256) : (UInt8.ofNat n).toNat = n := by
  simp [UInt8.toNat_ofNat', Nat.mod_eq_of_lt h]

theorem ofNat_eq_of_toNat {b : UInt8} {n : Nat} (h : n = b.toNat) : UInt8.ofNat n = b := by
  subst h
  exact UInt8.ofNat_toNat

/-! ## The bytes of a code point -/

/-- The bytes of a code point, by its size. -/
def bytesOf (n : Nat) : List UInt8 :=
  if n ≤ 0x7F then [.ofNat n]
  else if n ≤ 0x7FF then [.ofNat (n / 64 % 32 + 0xC0), .ofNat (n % 64 + 0x80)]
  else if n ≤ 0xFFFF then
    [.ofNat (n / 4096 % 16 + 0xE0), .ofNat (n / 64 % 64 + 0x80), .ofNat (n % 64 + 0x80)]
  else
    [.ofNat (n / 262144 % 8 + 0xF0), .ofNat (n / 4096 % 64 + 0x80), .ofNat (n / 64 % 64 + 0x80),
      .ofNat (n % 64 + 0x80)]

theorem utf8EncodeChar_eq_bytesOf (c : Char) : String.utf8EncodeChar c = bytesOf c.toNat :=
  rfl

/-- Every code point but the surrogates is a character and has its bytes. -/
theorem utf8EncodeChar_ofNat {n : Nat} (h : n < 0xD800 ∨ 0xDFFF < n ∧ n < 0x110000) :
    String.utf8EncodeChar (Char.ofNat n) = bytesOf n := by
  have hvalid : n.isValidChar := h
  rw [utf8EncodeChar_eq_bytesOf, Char.ofNat, dif_pos hvalid]
  rfl

/-! ## From a text to its bytes and back -/

theorem scanFrom_between_cons {b : Nat} (hb : b < 256) (rest : List UInt8) :
    scanFrom .between (UInt8.ofNat b :: rest) = (start b).1 ++ scanFrom (start b).2 rest := by
  simp only [scanFrom, toNat_ofNat_of_lt hb, step]

/-- The last byte of a character completes it. -/
theorem scanFrom_inside_last {low high bits b : Nat} (hb : b < 256) (hlow : low ≤ b)
    (hhigh : b ≤ high) (rest : List UInt8) :
    scanFrom (.inside 0 low high bits) (UInt8.ofNat b :: rest) =
      some (Char.ofNat (64 * bits + (b - 0x80))) :: scanFrom .between rest := by
  simp only [scanFrom, toNat_ofNat_of_lt hb, step]
  rw [if_pos ⟨hlow, hhigh⟩]
  rfl

/-- A byte in the middle of a character adds six bits to its payload. -/
theorem scanFrom_inside_more {owed low high bits b : Nat} (hb : b < 256) (hlow : low ≤ b)
    (hhigh : b ≤ high) (rest : List UInt8) :
    scanFrom (.inside (owed + 1) low high bits) (UInt8.ofNat b :: rest) =
      scanFrom (.inside owed 0x80 0xBF (64 * bits + (b - 0x80))) rest := by
  simp only [scanFrom, toNat_ofNat_of_lt hb, step]
  rw [if_pos ⟨hlow, hhigh⟩]
  rfl

/-- The bytes of a character give that character. -/
theorem scanFrom_utf8EncodeChar (c : Char) (rest : List UInt8) :
    scanFrom .between (String.utf8EncodeChar c ++ rest) = some c :: scanFrom .between rest := by
  have hvalid : c.toNat < 0xD800 ∨ 0xDFFF < c.toNat ∧ c.toNat < 0x110000 := c.valid
  have hofNat : Char.ofNat c.toNat = c := Char.ofNat_toNat c
  rw [utf8EncodeChar_eq_bytesOf, bytesOf]
  split
  · rw [List.singleton_append, scanFrom_between_cons (by omega), start, if_pos (by omega), hofNat]
    rfl
  split
  · rw [List.cons_append, List.singleton_append, scanFrom_between_cons (by omega), start,
      if_neg (by omega), if_neg (by omega), if_pos (by omega), List.nil_append,
      scanFrom_inside_last (by omega) (by omega) (by omega),
      show 64 * (c.toNat / 64 % 32 + 0xC0 - 0xC0) + (c.toNat % 64 + 0x80 - 0x80) = c.toNat by omega,
      hofNat]
  split
  · rw [List.cons_append, List.cons_append, List.singleton_append,
      scanFrom_between_cons (by omega), start, if_neg (by omega), if_neg (by omega),
      if_neg (by omega), if_pos (by omega), List.nil_append,
      scanFrom_inside_more (by omega) (by split <;> omega) (by split <;> omega),
      scanFrom_inside_last (by omega) (by omega) (by omega),
      show 64 * (64 * (c.toNat / 4096 % 16 + 0xE0 - 0xE0) + (c.toNat / 64 % 64 + 0x80 - 0x80)) +
        (c.toNat % 64 + 0x80 - 0x80) = c.toNat by omega, hofNat]
  · rw [List.cons_append, List.cons_append, List.cons_append, List.singleton_append,
      scanFrom_between_cons (by omega), start, if_neg (by omega), if_neg (by omega),
      if_neg (by omega), if_neg (by omega), if_pos (by omega), List.nil_append,
      scanFrom_inside_more (by omega) (by split <;> omega) (by split <;> omega),
      scanFrom_inside_more (by omega) (by omega) (by omega),
      scanFrom_inside_last (by omega) (by omega) (by omega),
      show 64 * (64 * (64 * (c.toNat / 262144 % 8 + 0xF0 - 0xF0) +
        (c.toNat / 4096 % 64 + 0x80 - 0x80)) + (c.toNat / 64 % 64 + 0x80 - 0x80)) +
        (c.toNat % 64 + 0x80 - 0x80) = c.toNat by omega, hofNat]

theorem wellFormed?_scan_encode (text : List Char) :
    wellFormed? (scanFrom .between (text.flatMap String.utf8EncodeChar)) = some text := by
  induction text with
  | nil => rfl
  | cons c text ih => rw [List.flatMap_cons, scanFrom_utf8EncodeChar, wellFormed?, ih]; rfl

/-! ## From bytes to a text and back -/

/-- A reader inside a character that meets no malformed run finds the byte it is owed. -/
theorem inside_of_wellFormed? {owed low high bits : Nat} {bytes : List UInt8} {text : List Char}
    (h : wellFormed? (scanFrom (.inside owed low high bits) bytes) = some text) :
    ∃ b rest, bytes = b :: rest ∧ low ≤ b.toNat ∧ b.toNat ≤ high ∧
      (owed = 0 → ∃ later, text = Char.ofNat (64 * bits + (b.toNat - 0x80)) :: later ∧
        wellFormed? (scanFrom .between rest) = some later) ∧
      (∀ fewer, owed = fewer + 1 →
        wellFormed? (scanFrom (.inside fewer 0x80 0xBF (64 * bits + (b.toNat - 0x80))) rest) =
          some text) := by
  cases bytes with
  | nil => simp [scanFrom, wellFormed?] at h
  | cons b rest =>
    by_cases hb : low ≤ b.toNat ∧ b.toNat ≤ high
    · refine ⟨b, rest, rfl, hb.1, hb.2, ?_, ?_⟩
      · rintro rfl
        simp only [scanFrom, step, if_pos hb, List.singleton_append, wellFormed?] at h
        obtain ⟨later, hlater, rfl⟩ := Option.map_eq_some_iff.1 h
        exact ⟨later, rfl, hlater⟩
      · rintro fewer rfl
        simpa only [scanFrom, step, if_pos hb, List.nil_append] using h
    · simp [scanFrom, step, if_neg hb, wellFormed?] at h

/-- A reader between two characters that meets no malformed run finds the bytes of a character, and
goes on behind them. -/
theorem first_of_wellFormed? {b : UInt8} {rest : List UInt8} {text : List Char}
    (h : wellFormed? (scanFrom .between (b :: rest)) = some text) :
    ∃ c later behind, text = c :: later ∧ b :: rest = String.utf8EncodeChar c ++ behind ∧
      wellFormed? (scanFrom .between behind) = some later := by
  have hbyte : b.toNat < 256 := b.toNat_lt
  simp only [scanFrom, step, start] at h
  split at h
  · -- one byte
    simp only [List.singleton_append, wellFormed?] at h
    obtain ⟨later, hlater, rfl⟩ := Option.map_eq_some_iff.1 h
    refine ⟨_, later, rest, rfl, ?_, hlater⟩
    rw [utf8EncodeChar_ofNat (by omega), bytesOf, if_pos (by omega), ofNat_eq_of_toNat rfl,
      List.singleton_append]
  split at h
  · simp [wellFormed?] at h
  split at h
  · -- two bytes
    simp only [List.nil_append] at h
    obtain ⟨b₁, behind, rfl, hlow, hhigh, hlast, -⟩ := inside_of_wellFormed? h
    obtain ⟨later, rfl, hlater⟩ := hlast rfl
    refine ⟨_, later, behind, rfl, ?_, hlater⟩
    rw [utf8EncodeChar_ofNat (by omega), bytesOf, if_neg (by omega), if_pos (by omega),
      ofNat_eq_of_toNat (b := b) (by omega), ofNat_eq_of_toNat (b := b₁) (by omega)]
    rfl
  split at h
  · -- three bytes; the bounds of the second keep out overlong forms and surrogates
    simp only [List.nil_append] at h
    obtain ⟨b₁, _, rfl, hlow, hhigh, -, hmore⟩ := inside_of_wellFormed? h
    obtain ⟨b₂, behind, rfl, hlow₂, hhigh₂, hlast, -⟩ := inside_of_wellFormed? (hmore 0 rfl)
    obtain ⟨later, rfl, hlater⟩ := hlast rfl
    have hsecond : 0x80 ≤ b₁.toNat ∧ b₁.toNat ≤ 0xBF ∧
        (b.toNat = 0xE0 → 0xA0 ≤ b₁.toNat) ∧ (b.toNat = 0xED → b₁.toNat ≤ 0x9F) := by
      split at hlow <;> split at hhigh <;> omega
    refine ⟨_, later, behind, rfl, ?_, hlater⟩
    rw [utf8EncodeChar_ofNat (by omega), bytesOf, if_neg (by omega), if_neg (by omega),
      if_pos (by omega), ofNat_eq_of_toNat (b := b) (by omega),
      ofNat_eq_of_toNat (b := b₁) (by omega), ofNat_eq_of_toNat (b := b₂) (by omega)]
    rfl
  split at h
  · -- four bytes; the bounds of the second keep out overlong forms and what is too large
    simp only [List.nil_append] at h
    obtain ⟨b₁, _, rfl, hlow, hhigh, -, hmore⟩ := inside_of_wellFormed? h
    obtain ⟨b₂, _, rfl, hlow₂, hhigh₂, -, hmore₂⟩ := inside_of_wellFormed? (hmore 1 rfl)
    obtain ⟨b₃, behind, rfl, hlow₃, hhigh₃, hlast, -⟩ := inside_of_wellFormed? (hmore₂ 0 rfl)
    obtain ⟨later, rfl, hlater⟩ := hlast rfl
    have hsecond : 0x80 ≤ b₁.toNat ∧ b₁.toNat ≤ 0xBF ∧
        (b.toNat = 0xF0 → 0x90 ≤ b₁.toNat) ∧ (b.toNat = 0xF4 → b₁.toNat ≤ 0x8F) := by
      split at hlow <;> split at hhigh <;> omega
    refine ⟨_, later, behind, rfl, ?_, hlater⟩
    rw [utf8EncodeChar_ofNat (by omega), bytesOf, if_neg (by omega), if_neg (by omega),
      if_neg (by omega), ofNat_eq_of_toNat (b := b) (by omega),
      ofNat_eq_of_toNat (b := b₁) (by omega), ofNat_eq_of_toNat (b := b₂) (by omega),
      ofNat_eq_of_toNat (b := b₃) (by omega)]
    rfl
  · simp [wellFormed?] at h

/-- Bytes without a malformed run are the bytes of the text read from them. -/
theorem eq_encode_of_wellFormed? {bytes : List UInt8} {text : List Char}
    (h : wellFormed? (scanFrom .between bytes) = some text) :
    bytes = text.flatMap String.utf8EncodeChar := by
  induction text generalizing bytes with
  | nil =>
    cases bytes with
    | nil => rfl
    | cons b rest =>
      obtain ⟨_, _, _, hnil, -⟩ := first_of_wellFormed? h
      cases hnil
  | cons c text ih =>
    cases bytes with
    | nil => simp [scanFrom, wellFormed?] at h
    | cons b rest =>
      obtain ⟨_, _, behind, hcons, hbytes, hlater⟩ := first_of_wellFormed? h
      cases hcons
      rw [hbytes, List.flatMap_cons, ih hlater]

/-- The bytes of texts, and no others, are accepted, each with its text. -/
theorem decode?_eq_some_iff {bytes : List UInt8} {text : List Char} :
    decode? bytes = some text ↔ bytes = text.flatMap String.utf8EncodeChar := by
  constructor
  · exact eq_encode_of_wellFormed?
  · rintro rfl
    exact wellFormed?_scan_encode text

/-! ## The character in front -/

/-- Bytes begin with one character at most. -/
theorem eq_of_utf8EncodeChar_append_eq {c c' : Char} {rest rest' : List UInt8}
    (h : String.utf8EncodeChar c ++ rest = String.utf8EncodeChar c' ++ rest') : c = c' := by
  have hscan := congrArg (scanFrom .between) h
  rw [scanFrom_utf8EncodeChar, scanFrom_utf8EncodeChar] at hscan
  exact Option.some.inj (List.cons.inj hscan).1

theorem exists_of_first?_eq_some {bytes : List UInt8} {c : Char} (h : first? bytes = some c) :
    ∃ rest, bytes = String.utf8EncodeChar c ++ rest := by
  obtain ⟨size, -, hsize⟩ := List.exists_of_findSome?_eq_some h
  split at hsize
  · next c' hread =>
    cases hsize
    have htake := decode?_eq_some_iff.1 hread
    rw [List.flatMap_singleton] at htake
    exact ⟨bytes.drop size, by rw [← htake, List.take_append_drop]⟩
  · cases hsize

/-- A byte text begins with a character exactly if its first bytes are the bytes of that one. -/
theorem first?_eq_some_iff {bytes : List UInt8} {c : Char} :
    first? bytes = some c ↔ ∃ rest, bytes = String.utf8EncodeChar c ++ rest := by
  refine ⟨exists_of_first?_eq_some, ?_⟩
  rintro ⟨rest, rfl⟩
  -- a character is found, since its bytes are among the beginnings that are tried
  have hfound : (first? (String.utf8EncodeChar c ++ rest)).isSome := by
    refine List.findSome?_isSome_iff.2 ⟨c.utf8Size, ?_, ?_⟩
    · have hpos := c.utf8Size_pos
      have hfour := c.utf8Size_le_four
      simp only [List.mem_cons, List.not_mem_nil, or_false]
      omega
    · have hread : decode? ((String.utf8EncodeChar c ++ rest).take c.utf8Size) = some [c] := by
        rw [List.take_left' (String.length_utf8EncodeChar c), decode?_eq_some_iff,
          List.flatMap_singleton]
      rw [hread]
      rfl
  obtain ⟨c', hc'⟩ := Option.isSome_iff_exists.1 hfound
  obtain ⟨rest', hrest'⟩ := exists_of_first?_eq_some hc'
  rw [hc', eq_of_utf8EncodeChar_append_eq hrest']

end CellWidth.Text.Utf8
