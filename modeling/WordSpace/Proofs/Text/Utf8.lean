import Mathlib
import WordSpace.Text.Utf8

/-!
Characters written in UTF-8.

The bytes of a character are decoded to that character, whatever comes behind them
(`Text.decodeUtf8From_utf8EncodeChar_append`). There is one lemma for each number of bytes: the
first byte says how many there are, and the bounds it sets for the second one leave out only what
would be too long, a surrogate or beyond the last character. So a text that was written in UTF-8 is
read as it was (`Text.decodeUtf8_flatMap_utf8EncodeChar`).
-/

namespace WordSpace.Text

variable {position n v : Nat} {p : Utf8Partial} {rest : List UInt8}

/-! ## Single bytes -/

/-- A byte that begins a longer encoding is kept until the other bytes come. -/
theorem decodeUtf8From_of_begin? {byte : UInt8}
    (begins : Utf8Partial.begin? position byte = some p) :
    decodeUtf8From position none (byte :: rest) = decodeUtf8From (position + 1) (some p) rest := by
  have high : ¬byte.toNat < 0x80 := by
    intro low
    have none : Utf8Partial.begin? position byte = none := if_pos (by omega)
    rw [none] at begins
    cases begins
  rw [decodeUtf8From, if_neg high, begins]

/-- A byte within the bounds goes on with an encoding, and ends it if no other one is missing. -/
theorem decodeUtf8From_of_le (fits : p.low.toNat ≤ n ∧ n ≤ p.high.toNat) :
    decodeUtf8From position (some p) (UInt8.ofNat n :: rest) =
      if p.missing = 1 then
        (Decoded.cons (Char.ofNat (p.bits * 0x40 + (n - 0x80))) ·) <$>
          decodeUtf8From (position + 1) none rest
      else decodeUtf8From (position + 1)
        (some ⟨p.first, p.position, p.read + 1, p.missing - 1, p.bits * 0x40 + (n - 0x80), 0x80,
          0xBF⟩) rest := by
  have bound : p.high.toNat < 0x100 := p.high.toNat_lt
  have value : (UInt8.ofNat n).toNat = n :=
    UInt8.toNat_ofNat_of_lt' (show n < 0x100 by omega)
  have within : p.low ≤ UInt8.ofNat n ∧ UInt8.ofNat n ≤ p.high := by
    rw [UInt8.le_iff_toNat_le, UInt8.le_iff_toNat_le, value]
    exact fits
  rw [decodeUtf8From, if_pos within, value]

/-- A byte in the middle of an encoding adds its bits. -/
theorem decodeUtf8From_middle
    (fits : p.low.toNat ≤ v % 0x40 + 0x80 ∧ v % 0x40 + 0x80 ≤ p.high.toNat)
    (more : 1 < p.missing) :
    decodeUtf8From position (some p) (UInt8.ofNat (v % 0x40 + 0x80) :: rest) =
      decodeUtf8From (position + 1)
        (some ⟨p.first, p.position, p.read + 1, p.missing - 1, p.bits * 0x40 + v % 0x40, 0x80,
          0xBF⟩) rest := by
  rw [decodeUtf8From_of_le fits, if_neg (Nat.ne_of_gt more), Nat.add_sub_cancel]

/-- A byte with six bits is within the bounds of all bytes behind the second one. -/
theorem fits_of_plain (low : p.low = 0x80) (high : p.high = 0xBF) :
    p.low.toNat ≤ v % 0x40 + 0x80 ∧ v % 0x40 + 0x80 ≤ p.high.toNat := by
  rw [low, high]
  change 0x80 ≤ _ ∧ _ ≤ 0xBF
  omega

/-- The last byte of an encoding gives its character. -/
theorem decodeUtf8From_last {c : Char} (low : p.low = 0x80) (high : p.high = 0xBF)
    (last : p.missing = 1) (bits : p.bits * 0x40 + v % 0x40 = c.toNat) :
    decodeUtf8From position (some p) (UInt8.ofNat (v % 0x40 + 0x80) :: rest) =
      (Decoded.cons c ·) <$> decodeUtf8From (position + 1) none rest := by
  rw [decodeUtf8From_of_le (fits_of_plain low high), if_pos last, Nat.add_sub_cancel, bits,
    Char.ofNat_toNat]

/-! ## Beginnings -/

theorem begin?_of_two (least : 0xC2 ≤ n) (most : n < 0xE0) :
    Utf8Partial.begin? position (UInt8.ofNat n) =
      some ⟨UInt8.ofNat n, position, 1, 1, n - 0xC0, 0x80, 0xBF⟩ := by
  have value : (UInt8.ofNat n).toNat = n :=
    UInt8.toNat_ofNat_of_lt' (show n < 0x100 by omega)
  unfold Utf8Partial.begin?
  dsimp only
  rw [value, if_neg (by omega), if_pos most]

theorem begin?_of_three (least : 0xE0 ≤ n) (most : n < 0xF0) :
    Utf8Partial.begin? position (UInt8.ofNat n) =
      some ⟨UInt8.ofNat n, position, 1, 2, n - 0xE0, if n = 0xE0 then 0xA0 else 0x80,
        if n = 0xED then 0x9F else 0xBF⟩ := by
  have value : (UInt8.ofNat n).toNat = n :=
    UInt8.toNat_ofNat_of_lt' (show n < 0x100 by omega)
  unfold Utf8Partial.begin?
  dsimp only
  rw [value, if_neg (by omega), if_neg (by omega), if_pos most]

theorem begin?_of_four (least : 0xF0 ≤ n) (most : n < 0xF5) :
    Utf8Partial.begin? position (UInt8.ofNat n) =
      some ⟨UInt8.ofNat n, position, 1, 3, n - 0xF0, if n = 0xF0 then 0x90 else 0x80,
        if n = 0xF4 then 0x8F else 0xBF⟩ := by
  have value : (UInt8.ofNat n).toNat = n :=
    UInt8.toNat_ofNat_of_lt' (show n < 0x100 by omega)
  unfold Utf8Partial.begin?
  dsimp only
  rw [value, if_neg (by omega), if_neg (by omega), if_neg (by omega), if_pos most]

/-! ## Characters -/

variable {c : Char}

theorem decodeUtf8From_one (code : c.toNat = v) (most : v ≤ 0x7F) :
    decodeUtf8From position none (UInt8.ofNat v :: rest) =
      (Decoded.cons c ·) <$> decodeUtf8From (position + 1) none rest := by
  have value : (UInt8.ofNat v).toNat = v :=
    UInt8.toNat_ofNat_of_lt' (show v < 0x100 by omega)
  rw [decodeUtf8From, value, if_pos (by omega), ← code, Char.ofNat_toNat]

theorem decodeUtf8From_two (code : c.toNat = v) (least : 0x7F < v) (most : v ≤ 0x7FF) :
    decodeUtf8From position none
        (UInt8.ofNat (v / 0x40 % 0x20 + 0xC0) :: UInt8.ofNat (v % 0x40 + 0x80) :: rest) =
      (Decoded.cons c ·) <$> decodeUtf8From (position + 2) none rest := by
  have bits : (v / 0x40 % 0x20 + 0xC0 - 0xC0) * 0x40 + v % 0x40 = c.toNat := by omega
  rw [decodeUtf8From_of_begin? (begin?_of_two (by omega) (by omega))]
  exact decodeUtf8From_last rfl rfl rfl bits

/-- The second byte of three is within its bounds, since the character is none of those that take
two bytes and no surrogate. -/
theorem decodeUtf8From_three (code : c.toNat = v) (least : 0x7FF < v) (most : v ≤ 0xFFFF) :
    decodeUtf8From position none
        (UInt8.ofNat (v / 0x1000 % 0x10 + 0xE0) :: UInt8.ofNat (v / 0x40 % 0x40 + 0x80) ::
          UInt8.ofNat (v % 0x40 + 0x80) :: rest) =
      (Decoded.cons c ·) <$> decodeUtf8From (position + 3) none rest := by
  have valid : v < 0xD800 ∨ (0xDFFF < v ∧ v < 0x110000) := code ▸ c.valid
  have bits : ((v / 0x1000 % 0x10 + 0xE0 - 0xE0) * 0x40 + v / 0x40 % 0x40) * 0x40 + v % 0x40 =
      c.toNat := by omega
  rw [decodeUtf8From_of_begin? (begin?_of_three (by omega) (by omega)), decodeUtf8From_middle]
  · exact decodeUtf8From_last rfl rfl rfl bits
  case more => exact Nat.lt_succ_self 1
  case fits =>
    dsimp only
    constructor
    · split
      · change 0xA0 ≤ _
        omega
      · change 0x80 ≤ _
        omega
    · split
      · change _ ≤ 0x9F
        omega
      · change _ ≤ 0xBF
        omega

/-- The second byte of four is within its bounds, since the character is none of those that take
three bytes and there is a last one. -/
theorem decodeUtf8From_four (code : c.toNat = v) (least : 0xFFFF < v) :
    decodeUtf8From position none
        (UInt8.ofNat (v / 0x40000 % 8 + 0xF0) :: UInt8.ofNat (v / 0x1000 % 0x40 + 0x80) ::
          UInt8.ofNat (v / 0x40 % 0x40 + 0x80) :: UInt8.ofNat (v % 0x40 + 0x80) :: rest) =
      (Decoded.cons c ·) <$> decodeUtf8From (position + 4) none rest := by
  have valid : v < 0xD800 ∨ (0xDFFF < v ∧ v < 0x110000) := code ▸ c.valid
  have bits : (((v / 0x40000 % 8 + 0xF0 - 0xF0) * 0x40 + v / 0x1000 % 0x40) * 0x40 +
      v / 0x40 % 0x40) * 0x40 + v % 0x40 = c.toNat := by omega
  rw [decodeUtf8From_of_begin? (begin?_of_four (by omega) (by omega)), decodeUtf8From_middle]
  · rw [decodeUtf8From_middle (fits_of_plain rfl rfl) (Nat.lt_succ_self 1)]
    exact decodeUtf8From_last rfl rfl rfl bits
  case more => exact Nat.lt_of_sub_eq_succ rfl
  case fits =>
    dsimp only
    constructor
    · split
      · change 0x90 ≤ _
        omega
      · change 0x80 ≤ _
        omega
    · split
      · change _ ≤ 0x8F
        omega
      · change _ ≤ 0xBF
        omega

/-- The bytes of a character are decoded to it, and what comes behind them is decoded by itself. -/
theorem decodeUtf8From_utf8EncodeChar_append (position : Nat) (c : Char) (rest : List UInt8) :
    decodeUtf8From position none (String.utf8EncodeChar c ++ rest) =
      (Decoded.cons c ·) <$>
        decodeUtf8From (position + (String.utf8EncodeChar c).length) none rest := by
  unfold String.utf8EncodeChar
  dsimp only
  split
  case isTrue one => exact decodeUtf8From_one rfl one
  split
  case isTrue more two => exact decodeUtf8From_two rfl (Nat.lt_of_not_le more) two
  split
  case isTrue more three => exact decodeUtf8From_three rfl (Nat.lt_of_not_le more) three
  case isFalse more => exact decodeUtf8From_four rfl (Nat.lt_of_not_le more)

/-- A text that was written in UTF-8 is read as it was. -/
theorem decodeUtf8_flatMap_utf8EncodeChar (text : List Char) :
    decodeUtf8 (text.flatMap String.utf8EncodeChar) = .ok ⟨text, none⟩ := by
  have from_position (position : Nat) :
      decodeUtf8From position none (text.flatMap String.utf8EncodeChar) = .ok ⟨text, none⟩ := by
    induction text generalizing position with
    | nil => rfl
    | cons c text ih =>
      rw [List.flatMap_cons, decodeUtf8From_utf8EncodeChar_append, ih]
      rfl
  exact from_position 0

end WordSpace.Text
