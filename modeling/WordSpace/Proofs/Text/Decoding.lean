import WordSpace.Proofs.Text.Utf8

/-!
What is decoded.

Bytes are decoded if they are those of a text in UTF-8, with nothing behind them or with bytes that
end before the encoding they begin does (`Text.Decodes`). These are the two ways in which decoding
succeeds (`Text.decodes_of_decodeUtf8`), and it succeeds in both (`Text.exists_of_cutShort`).

A partly read character stands for the bytes that have been read of it: whatever completes it within
its bounds completes them to the encoding of the character that it leads to
(`Text.Utf8Partial.Stands`).
-/

namespace WordSpace.Text

/-- The bytes end before the encoding does that they begin: the one of a character, or what would be
the one of a surrogate. -/
inductive CutShort : List UInt8 → Prop
  | char {c : Char} {front back : List UInt8} :
    String.utf8EncodeChar c = front ++ back → front ≠ [] → back ≠ [] → CutShort front
  | surrogate {second : UInt8} : 0xA0 ≤ second → second ≤ 0xBF → CutShort [0xED, second]

/-- The bytes are those of a text in UTF-8, and of what is cut short behind it if there is a
fault. -/
def Decodes (bytes : List UInt8) (decoded : Decoded) : Prop :=
  ∃ rest, bytes = decoded.text.flatMap String.utf8EncodeChar ++ rest ∧
    (rest = [] ∧ decoded.fault = none ∨ CutShort rest ∧ ∃ error, decoded.fault = some error)

theorem Decodes.cons {bytes : List UInt8} {decoded : Decoded} (decodes : Decodes bytes decoded)
    (c : Char) : Decodes (String.utf8EncodeChar c ++ bytes) (decoded.cons c) := by
  obtain ⟨rest, rfl, ends⟩ := decodes
  exact ⟨rest, by simp [Decoded.cons], ends⟩

/-- Nothing is behind the text if there is no fault. -/
theorem Decodes.eq_of_no_fault {bytes : List UInt8} {text : List Char}
    (decodes : Decodes bytes ⟨text, none⟩) : bytes = text.flatMap String.utf8EncodeChar := by
  obtain ⟨rest, whole, ⟨rfl, -⟩ | ⟨-, error, fault⟩⟩ := decodes
  · rw [whole, List.append_nil]
  · cases fault

/-! ## Encodings by their bytes -/

section Encodings

variable {a b c d : UInt8}

theorem ofNat_eq_of_eq_toNat {n : Nat} (same : n = a.toNat) : UInt8.ofNat n = a := by
  rw [same, UInt8.ofNat_toNat]

theorem val_toNat_ofNat {v : Nat} (valid : v < 0xD800 ∨ 0xDFFF < v ∧ v < 0x110000) :
    (Char.ofNat v).val.toNat = v := by
  change (Char.ofNat v).toNat = v
  rw [Char.toNat_ofNat, if_pos valid]

theorem utf8EncodeChar_of_one (first : a.toNat < 0x80) :
    String.utf8EncodeChar (Char.ofNat a.toNat) = [a] := by
  unfold String.utf8EncodeChar
  dsimp only
  rw [val_toNat_ofNat (by omega), if_pos (by omega), UInt8.ofNat_toNat]

theorem utf8EncodeChar_of_two (first : 0xC2 ≤ a.toNat ∧ a.toNat < 0xE0)
    (second : 0x80 ≤ b.toNat ∧ b.toNat ≤ 0xBF) :
    String.utf8EncodeChar (Char.ofNat ((a.toNat - 0xC0) * 0x40 + (b.toNat - 0x80))) = [a, b] := by
  generalize whole : (a.toNat - 0xC0) * 0x40 + (b.toNat - 0x80) = v
  have one : v / 64 % 32 + 192 = a.toNat := by omega
  have two : v % 64 + 128 = b.toNat := by omega
  unfold String.utf8EncodeChar
  dsimp only
  rw [val_toNat_ofNat (by omega), if_neg (by omega), if_pos (by omega),
    ofNat_eq_of_eq_toNat one, ofNat_eq_of_eq_toNat two]

theorem utf8EncodeChar_of_three (first : 0xE0 ≤ a.toNat ∧ a.toNat < 0xF0)
    (second : 0x80 ≤ b.toNat ∧ b.toNat ≤ 0xBF) (long : a.toNat = 0xE0 → 0xA0 ≤ b.toNat)
    (noSurrogate : a.toNat = 0xED → b.toNat ≤ 0x9F) (third : 0x80 ≤ c.toNat ∧ c.toNat ≤ 0xBF) :
    String.utf8EncodeChar
        (Char.ofNat (((a.toNat - 0xE0) * 0x40 + (b.toNat - 0x80)) * 0x40 + (c.toNat - 0x80))) =
      [a, b, c] := by
  generalize whole : ((a.toNat - 0xE0) * 0x40 + (b.toNat - 0x80)) * 0x40 + (c.toNat - 0x80) = v
  have one : v / 4096 % 16 + 224 = a.toNat := by omega
  have two : v / 64 % 64 + 128 = b.toNat := by omega
  have three : v % 64 + 128 = c.toNat := by omega
  unfold String.utf8EncodeChar
  dsimp only
  rw [val_toNat_ofNat (by omega), if_neg (by omega), if_neg (by omega), if_pos (by omega),
    ofNat_eq_of_eq_toNat one, ofNat_eq_of_eq_toNat two, ofNat_eq_of_eq_toNat three]

theorem utf8EncodeChar_of_four (first : 0xF0 ≤ a.toNat ∧ a.toNat < 0xF5)
    (second : 0x80 ≤ b.toNat ∧ b.toNat ≤ 0xBF) (long : a.toNat = 0xF0 → 0x90 ≤ b.toNat)
    (last : a.toNat = 0xF4 → b.toNat ≤ 0x8F) (third : 0x80 ≤ c.toNat ∧ c.toNat ≤ 0xBF)
    (fourth : 0x80 ≤ d.toNat ∧ d.toNat ≤ 0xBF) :
    String.utf8EncodeChar
        (Char.ofNat ((((a.toNat - 0xF0) * 0x40 + (b.toNat - 0x80)) * 0x40 + (c.toNat - 0x80)) *
          0x40 + (d.toNat - 0x80))) =
      [a, b, c, d] := by
  generalize whole : (((a.toNat - 0xF0) * 0x40 + (b.toNat - 0x80)) * 0x40 + (c.toNat - 0x80)) *
    0x40 + (d.toNat - 0x80) = v
  have one : v / 262144 % 8 + 240 = a.toNat := by omega
  have two : v / 4096 % 64 + 128 = b.toNat := by omega
  have three : v / 64 % 64 + 128 = c.toNat := by omega
  have four : v % 64 + 128 = d.toNat := by omega
  unfold String.utf8EncodeChar
  dsimp only
  rw [val_toNat_ofNat (by omega), if_neg (by omega), if_neg (by omega), if_neg (by omega),
    ofNat_eq_of_eq_toNat one, ofNat_eq_of_eq_toNat two, ofNat_eq_of_eq_toNat three,
    ofNat_eq_of_eq_toNat four]

end Encodings

/-! ## Partly read characters -/

namespace Utf8Partial

/-- The bytes complete an encoding: they are as many as are missing, the first of them is within the
bounds, and all others are within those of any byte behind the second one. -/
structure Completes (p : Utf8Partial) (bytes : List UInt8) : Prop where
  length_eq : bytes.length = p.missing
  head : ∀ b ∈ bytes.head?, p.low ≤ b ∧ b ≤ p.high
  tail : ∀ b ∈ bytes.tail, 0x80 ≤ b.toNat ∧ b.toNat ≤ 0xBF

/-- The code point that further bytes lead to. -/
def code (p : Utf8Partial) (bytes : List UInt8) : Nat :=
  bytes.foldl (fun bits b => bits * 0x40 + (b.toNat - 0x80)) p.bits

/-- The bytes are those that have been read of a character, and all that completes it completes them
to an encoding. -/
structure Stands (p : Utf8Partial) (seen : List UInt8) : Prop where
  first : seen.head? = some p.first
  length_eq : seen.length = p.read
  missing_pos : 0 < p.missing
  bounds : p.low ≤ p.high
  encodes : ∀ bytes, p.Completes bytes →
    String.utf8EncodeChar (Char.ofNat (p.code bytes)) = seen ++ bytes

/-- The character behind one more byte, which is not the last one. -/
def next (p : Utf8Partial) (byte : UInt8) : Utf8Partial :=
  ⟨p.first, p.position, p.read + 1, p.missing - 1, p.bits * 0x40 + (byte.toNat - 0x80), 0x80, 0xBF⟩

variable {p : Utf8Partial} {seen : List UInt8} {byte : UInt8}

theorem Completes.exists_one {bytes : List UInt8} (completes : p.Completes bytes)
    (missing : p.missing = 1) :
    ∃ b, bytes = [b] ∧ p.low.toNat ≤ b.toNat ∧ b.toNat ≤ p.high.toNat := by
  obtain ⟨b, rfl⟩ := List.length_eq_one_iff.1 (completes.length_eq.trans missing)
  exact ⟨b, rfl, completes.head b rfl⟩

theorem Completes.exists_two {bytes : List UInt8} (completes : p.Completes bytes)
    (missing : p.missing = 2) :
    ∃ b c, bytes = [b, c] ∧ (p.low.toNat ≤ b.toNat ∧ b.toNat ≤ p.high.toNat) ∧
      0x80 ≤ c.toNat ∧ c.toNat ≤ 0xBF := by
  obtain ⟨b, c, rfl⟩ := List.length_eq_two.1 (completes.length_eq.trans missing)
  exact ⟨b, c, rfl, completes.head b rfl, completes.tail c (.head _)⟩

theorem Completes.exists_three {bytes : List UInt8} (completes : p.Completes bytes)
    (missing : p.missing = 3) :
    ∃ b c d, bytes = [b, c, d] ∧ (p.low.toNat ≤ b.toNat ∧ b.toNat ≤ p.high.toNat) ∧
      (0x80 ≤ c.toNat ∧ c.toNat ≤ 0xBF) ∧ 0x80 ≤ d.toNat ∧ d.toNat ≤ 0xBF := by
  obtain ⟨b, c, d, rfl⟩ := List.length_eq_three.1 (completes.length_eq.trans missing)
  exact ⟨b, c, d, rfl, completes.head b rfl, completes.tail c (.head _),
    completes.tail d (.tail _ (.head _))⟩

/-- There is something to complete what has been read, so it is cut short where it ends. -/
theorem Stands.cutShort (stands : p.Stands seen) : CutShort seen := by
  have completes : p.Completes (p.low :: List.replicate (p.missing - 1) 0x80) := by
    refine ⟨?_, ?_, ?_⟩
    · have some_missing := stands.missing_pos
      rw [List.length_cons, List.length_replicate]
      omega
    · intro b first
      cases first
      exact ⟨UInt8.le_refl _, stands.bounds⟩
    · intro b member
      rw [List.eq_of_mem_replicate member]
      decide
  refine .char (stands.encodes _ completes) ?_ (List.cons_ne_nil _ _)
  intro empty
  have first := stands.first
  rw [empty] at first
  cases first

/-- Two bytes that begin a surrogate are cut short. -/
theorem Stands.cutShort_of_beginsSurrogate (stands : p.Stands seen)
    (begins : p.beginsSurrogate byte = true) : CutShort (seen ++ [byte]) := by
  simp only [beginsSurrogate, Bool.and_eq_true, beq_iff_eq, decide_eq_true_eq] at begins
  obtain ⟨⟨⟨first, one⟩, least⟩, most⟩ := begins
  obtain ⟨b, rfl⟩ := List.length_eq_one_iff.1 (stands.length_eq.trans one)
  have same : b = p.first := Option.some.inj stands.first
  rw [same, first]
  exact .surrogate least most

theorem Stands.next (stands : p.Stands seen) (fits : p.low ≤ byte ∧ byte ≤ p.high)
    (more : p.missing ≠ 1) : (p.next byte).Stands (seen ++ [byte]) := by
  have some_missing := stands.missing_pos
  refine ⟨?_, ?_, ?_, ?_, ?_⟩
  · rw [List.head?_append, stands.first]
    rfl
  · rw [List.length_append, stands.length_eq]
    rfl
  · change 0 < p.missing - 1
    omega
  · change (0x80 : UInt8) ≤ 0xBF
    decide
  · intro bytes completes
    have longer : p.Completes (byte :: bytes) := by
      refine ⟨?_, ?_, ?_⟩
      · have length : bytes.length = p.missing - 1 := completes.length_eq
        rw [List.length_cons]
        omega
      · intro b first
        cases first
        exact fits
      · intro b member
        cases bytes with
        | nil => cases member
        | cons c bytes =>
          rcases List.mem_cons.1 member with rfl | member
          · exact completes.head b rfl
          · exact completes.tail b member
    have same : (p.next byte).code bytes = p.code (byte :: bytes) := by
      rw [code, code, List.foldl_cons, Utf8Partial.next]
    rw [same, stands.encodes _ longer, List.append_assoc, List.singleton_append]

/-- The last byte gives the character that the bytes encode. -/
theorem Stands.last (stands : p.Stands seen) (fits : p.low ≤ byte ∧ byte ≤ p.high)
    (last : p.missing = 1) :
    String.utf8EncodeChar (Char.ofNat (p.bits * 0x40 + (byte.toNat - 0x80))) = seen ++ [byte] := by
  refine stands.encodes [byte] ⟨last.symm, ?_, ?_⟩
  · intro b first
    cases first
    exact fits
  · intro b member
    cases member

theorem le_of_ite_le {special : Prop} [Decidable special] {strict plain : UInt8} {n : Nat}
    (order : plain ≤ strict) (bound : (if special then strict else plain).toNat ≤ n) :
    plain.toNat ≤ n ∧ (special → strict.toNat ≤ n) := by
  split at bound
  case isTrue => exact ⟨Nat.le_trans order bound, fun _ => bound⟩
  case isFalse other => exact ⟨bound, fun holds => absurd holds other⟩

theorem le_of_le_ite {special : Prop} [Decidable special] {strict plain : UInt8} {n : Nat}
    (order : strict ≤ plain) (bound : n ≤ (if special then strict else plain).toNat) :
    n ≤ plain.toNat ∧ (special → n ≤ strict.toNat) := by
  split at bound
  case isTrue => exact ⟨Nat.le_trans bound order, fun _ => bound⟩
  case isFalse other => exact ⟨bound, fun holds => absurd holds other⟩

/-- A byte that begins an encoding stands for the characters that the bounds it sets lead to. -/
theorem stands_of_begin? {position : Nat} (begins : begin? position byte = some p) :
    p.Stands [byte] := by
  unfold begin? at begins
  dsimp only at begins
  split at begins
  case isTrue => cases begins
  case isFalse least =>
  split at begins
  case isTrue two =>
    cases begins
    refine ⟨rfl, rfl, Nat.one_pos, ?_, ?_⟩
    · change (0x80 : UInt8) ≤ 0xBF
      decide
    · intro bytes completes
      obtain ⟨b, rfl, low, high⟩ := completes.exists_one rfl
      exact utf8EncodeChar_of_two ⟨by omega, two⟩ ⟨low, high⟩
  case isFalse notTwo =>
  split at begins
  case isTrue three =>
    cases begins
    refine ⟨rfl, rfl, Nat.two_pos, ?_, ?_⟩
    · by_cases special : byte.toNat = 0xE0
      · simp only [special]
        decide
      · simp only [special, if_false]
        split <;> decide
    · intro bytes completes
      obtain ⟨b, c, rfl, ⟨low, high⟩, third⟩ := completes.exists_two rfl
      obtain ⟨low, long⟩ := le_of_ite_le (by decide) low
      obtain ⟨high, noSurrogate⟩ := le_of_le_ite (by decide) high
      exact utf8EncodeChar_of_three ⟨by omega, three⟩ ⟨low, high⟩ long noSurrogate third
  case isFalse notThree =>
  split at begins
  case isTrue four =>
    cases begins
    refine ⟨rfl, rfl, Nat.succ_pos 2, ?_, ?_⟩
    · by_cases special : byte.toNat = 0xF0
      · simp only [special]
        decide
      · simp only [special, if_false]
        split <;> decide
    · intro bytes completes
      obtain ⟨b, c, d, rfl, ⟨low, high⟩, third, fourth⟩ := completes.exists_three rfl
      obtain ⟨low, long⟩ := le_of_ite_le (by decide) low
      obtain ⟨high, last⟩ := le_of_le_ite (by decide) high
      exact utf8EncodeChar_of_four ⟨by omega, four⟩ ⟨low, high⟩ long last third fourth
  case isFalse => cases begins

end Utf8Partial

/-! ## Decoding -/

/-- What has been read before the bytes to come: nothing of a character, or some bytes of one. -/
def Behind : Option Utf8Partial → List UInt8 → Prop
  | none, seen => seen = []
  | some p, seen => p.Stands seen

/-- A character in front of what is decoded, if anything is. -/
theorem decodes_of_cons {bytes : List UInt8} {c : Char} {outcome : Except Utf8Error Decoded}
    {decoded : Decoded} (later : ∀ rest, outcome = .ok rest → Decodes bytes rest)
    (ok : (Decoded.cons c ·) <$> outcome = .ok decoded) :
    Decodes (String.utf8EncodeChar c ++ bytes) decoded := by
  cases outcome with
  | error error => cases ok
  | ok rest =>
    cases ok
    exact (later rest rfl).cons c

/-- Bytes that are decoded are those of what they are decoded to. -/
theorem decodes_of_decodeUtf8From {position : Nat} {state : Option Utf8Partial}
    {bytes seen : List UInt8} {decoded : Decoded} (behind : Behind state seen)
    (ok : decodeUtf8From position state bytes = .ok decoded) :
    Decodes (seen ++ bytes) decoded := by
  fun_induction decodeUtf8From position state bytes generalizing seen decoded with
  | case1 =>
    cases behind
    cases ok
    exact ⟨[], rfl, .inl ⟨rfl, rfl⟩⟩
  | case2 position p =>
    cases ok
    refine ⟨seen, ?_, .inr ⟨Utf8Partial.Stands.cutShort behind, _, rfl⟩⟩
    rw [List.append_nil]
    rfl
  | case3 position byte rest low ih =>
    cases behind
    have decodes := decodes_of_cons (fun _ read => ih rfl read) ok
    rwa [utf8EncodeChar_of_one low] at decodes
  | case4 position byte rest high p begins ih =>
    cases behind
    exact ih (Utf8Partial.stands_of_begin? begins) ok
  | case5 => cases ok
  | case6 position p byte rest fits bits last =>
    rename_i ih
    have decodes := decodes_of_cons (fun _ read => ih rfl read) ok
    rwa [Utf8Partial.Stands.last behind fits last, List.nil_append, List.append_assoc] at decodes
  | case7 position p byte rest fits bits more =>
    rename_i ih
    have decodes := ih (Utf8Partial.Stands.next behind fits more) ok
    rwa [List.append_assoc] at decodes
  | case8 position p byte rest apart surrogate =>
    cases ok
    rw [Bool.and_eq_true, List.isEmpty_iff] at surrogate
    obtain ⟨rfl, begins⟩ := surrogate
    refine ⟨seen ++ [byte], rfl, .inr ⟨?_, _, rfl⟩⟩
    exact Utf8Partial.Stands.cutShort_of_beginsSurrogate behind begins
  | case9 => cases ok

theorem decodes_of_decodeUtf8 {bytes : List UInt8} {decoded : Decoded}
    (ok : decodeUtf8 bytes = .ok decoded) : Decodes bytes decoded :=
  decodes_of_decodeUtf8From (show Behind none [] from rfl) ok

/-- What is decoded has a character in front if that can be said of a part of it. -/
theorem exists_map_cons {c : Char} {whole part : Except Utf8Error Decoded} {decoded : Decoded}
    (begins : ∀ later, whole = .ok later → ∃ earlier, part = .ok earlier)
    (ok : (Decoded.cons c ·) <$> whole = .ok decoded) :
    ∃ earlier, (Decoded.cons c ·) <$> part = .ok earlier := by
  cases whole with
  | error error => cases ok
  | ok later =>
    obtain ⟨earlier, rfl⟩ := begins later rfl
    exact ⟨earlier.cons c, rfl⟩

/-- Decoding that succeeds on bytes succeeds on the first of them. -/
theorem exists_of_decodeUtf8From_append {position : Nat} {state : Option Utf8Partial}
    {front back : List UInt8} {decoded : Decoded}
    (ok : decodeUtf8From position state (front ++ back) = .ok decoded) :
    ∃ earlier, decodeUtf8From position state front = .ok earlier := by
  fun_induction decodeUtf8From position state front generalizing decoded with
  | case1 => exact ⟨_, rfl⟩
  | case2 => exact ⟨_, rfl⟩
  | case3 position byte rest low ih =>
    rw [List.cons_append, decodeUtf8From, if_pos low] at ok
    exact exists_map_cons (fun _ => ih) ok
  | case4 position byte rest high p begins ih =>
    rw [List.cons_append, decodeUtf8From_of_begin? begins] at ok
    exact ih ok
  | case5 position byte rest high begins =>
    rw [List.cons_append, decodeUtf8From, if_neg high, begins] at ok
    cases ok
  | case6 position p byte rest fits bits last =>
    rename_i ih
    rw [List.cons_append, decodeUtf8From, if_pos fits, if_pos last] at ok
    exact exists_map_cons (fun _ => ih) ok
  | case7 position p byte rest fits bits more =>
    rename_i ih
    rw [List.cons_append, decodeUtf8From, if_pos fits, if_neg more] at ok
    exact ih ok
  | case8 => exact ⟨_, rfl⟩
  | case9 position p byte rest apart noSurrogate =>
    rw [List.cons_append, decodeUtf8From, if_neg apart, if_neg ?_] at ok
    · cases ok
    · intro surrogate
      rw [Bool.and_eq_true, List.isEmpty_iff, List.append_eq_nil_iff] at surrogate
      obtain ⟨⟨rfl, -⟩, begins⟩ := surrogate
      exact noSurrogate begins

/-- The encoding of a character has that of no other one as a proper beginning. -/
theorem eq_nil_of_utf8EncodeChar_eq {c d : Char} {more : List UInt8}
    (same : String.utf8EncodeChar c = String.utf8EncodeChar d ++ more) : more = [] := by
  have whole : decodeUtf8From 0 none (String.utf8EncodeChar d ++ more) = .ok ⟨[c], none⟩ := by
    rw [← same, ← List.append_nil (String.utf8EncodeChar c), decodeUtf8From_utf8EncodeChar_append]
    rfl
  rw [decodeUtf8From_utf8EncodeChar_append] at whole
  generalize later : decodeUtf8From _ none more = outcome at whole
  cases outcome with
  | error error => cases whole
  | ok decoded =>
    rcases decoded with ⟨text, fault⟩
    cases whole
    exact (decodes_of_decodeUtf8From (show Behind none [] from rfl) later).eq_of_no_fault

/-- Bytes that are cut short are decoded to nothing, and something is wrong with them. -/
theorem CutShort.exists_fault {rest : List UInt8} (cut : CutShort rest) (position : Nat) :
    ∃ error, decodeUtf8From position none rest = .ok ⟨[], some error⟩ := by
  cases cut with
  | @surrogate second least most =>
    have begins : Utf8Partial.begin? position 0xED =
        some ⟨0xED, position, 1, 2, 0x0D, 0x80, 0x9F⟩ := rfl
    have apart : ¬((0x80 : UInt8) ≤ second ∧ second ≤ 0x9F) := by
      intro fits
      have impossible := UInt8.le_trans least fits.2
      revert impossible
      decide
    rw [decodeUtf8From_of_begin? begins, decodeUtf8From, if_neg apart]
    simp [Utf8Partial.beginsSurrogate, least, most]
  | @char c _ back whole nonempty incomplete =>
    have ok : decodeUtf8From position none (rest ++ back) = .ok ⟨[c], none⟩ := by
      rw [← whole, ← List.append_nil (String.utf8EncodeChar c),
        decodeUtf8From_utf8EncodeChar_append]
      rfl
    obtain ⟨⟨text, fault⟩, earlier⟩ := exists_of_decodeUtf8From_append ok
    obtain ⟨tail, rest_eq, ends⟩ :=
      decodes_of_decodeUtf8From (show Behind none [] from rfl) earlier
    cases text with
    | cons d text =>
      rw [List.nil_append] at rest_eq
      rw [rest_eq, List.flatMap_cons, List.append_assoc, List.append_assoc] at whole
      have nothing := eq_nil_of_utf8EncodeChar_eq whole
      rw [List.append_eq_nil_iff, List.append_eq_nil_iff] at nothing
      exact absurd nothing.2.2 incomplete
    | nil =>
      rcases ends with ⟨rfl, -⟩ | ⟨-, error, rfl⟩
      · exact absurd rest_eq nonempty
      · exact ⟨error, earlier⟩

/-- A text with bytes behind it that are cut short is decoded, and something is wrong behind it. -/
theorem exists_of_cutShort {rest : List UInt8} (cut : CutShort rest) (text : List Char) :
    ∃ error, decodeUtf8 (text.flatMap String.utf8EncodeChar ++ rest) = .ok ⟨text, some error⟩ := by
  have from_position (position : Nat) :
      ∃ error, decodeUtf8From position none (text.flatMap String.utf8EncodeChar ++ rest) =
        .ok ⟨text, some error⟩ := by
    induction text generalizing position with
    | nil => exact cut.exists_fault position
    | cons c text ih =>
      obtain ⟨error, later⟩ := ih (position + (String.utf8EncodeChar c).length)
      refine ⟨error, ?_⟩
      rw [List.flatMap_cons, List.append_assoc, decodeUtf8From_utf8EncodeChar_append, later]
      rfl
  exact from_position 0

end WordSpace.Text
