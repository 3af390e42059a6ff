import WordSpace.Text.Quoted

/-!
UTF-8: the characters of a sequence of bytes.

Every byte that does not start or continue the encoding of a character is refused: lone
continuation bytes, encodings that are longer than needed, surrogates, code points beyond the last,
and encodings that the end of the input cuts short. The refusal names the bytes that began well.
Bytes at the end of the input that could be the beginning of a longer sequence are set aside and
judged by themselves, after all else has been decoded, so their places are counted from the first
of them.
-/

namespace WordSpace.Text

/-- Why bytes are not UTF-8. -/
inductive Utf8Reason where
  | invalidStart
  | invalidContinuation
  | unexpectedEnd
  deriving DecidableEq, Repr

/-- Bytes that are not UTF-8: the first of them, its place, how many there are, and why. -/
structure Utf8Error where
  first : UInt8
  position : Nat
  length : Nat
  reason : Utf8Reason
  deriving DecidableEq, Repr

/-- The text shown for bytes that are not UTF-8. -/
def Utf8Error.message (error : Utf8Error) : String :=
  let blamed :=
    if error.length = 1 then
      "byte 0x" ++ String.ofList (hexDigits 2 error.first.toNat) ++ " in position " ++
        toString error.position
    else
      "bytes in position " ++ toString error.position ++ "-" ++
        toString (error.position + error.length - 1)
  let reason := match error.reason with
    | .invalidStart => "invalid start byte"
    | .invalidContinuation => "invalid continuation byte"
    | .unexpectedEnd => "unexpected end of data"
  "'utf-8' codec can't decode " ++ blamed ++ ": " ++ reason

/-- The encoding of a character of which some bytes have been read. -/
structure Utf8Partial where
  first : UInt8
  position : Nat
  /-- How many bytes have been read. -/
  read : Nat
  /-- How many bytes are missing. -/
  missing : Nat
  /-- The bits of the code point that have been read. -/
  bits : Nat
  /-- The bounds of the next byte. -/
  low : UInt8
  high : UInt8

/-- Begins the encoding of a character that takes more than one byte. -/
def Utf8Partial.begin? (position : Nat) (first : UInt8) : Option Utf8Partial :=
  let n := first.toNat
  if n < 0xC2 then none
  else if n < 0xE0 then some ⟨first, position, 1, 1, n - 0xC0, 0x80, 0xBF⟩
  else if n < 0xF0 then
    some ⟨first, position, 1, 2, n - 0xE0, if n = 0xE0 then 0xA0 else 0x80,
      if n = 0xED then 0x9F else 0xBF⟩
  else if n < 0xF5 then
    some ⟨first, position, 1, 3, n - 0xF0, if n = 0xF0 then 0x90 else 0x80,
      if n = 0xF4 then 0x8F else 0xBF⟩
  else none

/-- Whether a byte that cannot come next begins a surrogate with the byte before it. A surrogate
takes three bytes, so at the end of the input these two are set aside for a third one. -/
def Utf8Partial.beginsSurrogate (p : Utf8Partial) (next : UInt8) : Bool :=
  p.first == 0xED && p.read == 1 && 0xA0 ≤ next && next ≤ 0xBF

/-- What bytes decode to: characters, and what is wrong with the bytes that were set aside at the
end of the input, if there are any. -/
structure Decoded where
  text : List Char
  fault : Option Utf8Error

/-- Puts a character before what was decoded. -/
def Decoded.cons (c : Char) (decoded : Decoded) : Decoded :=
  { decoded with text := c :: decoded.text }

/-- Decodes bytes, the first of them at a place and behind the beginning of a character. -/
def decodeUtf8From (position : Nat) : Option Utf8Partial → List UInt8 → Except Utf8Error Decoded
  | none, [] => .ok ⟨[], none⟩
  | some p, [] => .ok ⟨[], some ⟨p.first, 0, p.read, .unexpectedEnd⟩⟩
  | none, byte :: rest =>
    if byte.toNat < 0x80 then
      (Decoded.cons (Char.ofNat byte.toNat) ·) <$> decodeUtf8From (position + 1) none rest
    else match Utf8Partial.begin? position byte with
      | some p => decodeUtf8From (position + 1) (some p) rest
      | none => .error ⟨byte, position, 1, .invalidStart⟩
  | some p, byte :: rest =>
    if p.low ≤ byte ∧ byte ≤ p.high then
      let bits := p.bits * 0x40 + (byte.toNat - 0x80)
      if p.missing = 1 then
        (Decoded.cons (Char.ofNat bits) ·) <$> decodeUtf8From (position + 1) none rest
      else decodeUtf8From (position + 1)
        (some ⟨p.first, p.position, p.read + 1, p.missing - 1, bits, 0x80, 0xBF⟩) rest
    else if rest.isEmpty && p.beginsSurrogate byte then
      .ok ⟨[], some ⟨p.first, 0, p.read, .invalidContinuation⟩⟩
    else .error ⟨p.first, p.position, p.read, .invalidContinuation⟩

/-- Decodes bytes. -/
def decodeUtf8 (bytes : List UInt8) : Except Utf8Error Decoded := decodeUtf8From 0 none bytes

end WordSpace.Text
