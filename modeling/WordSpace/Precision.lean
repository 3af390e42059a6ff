/-!
Precision: carrying numbers between the two binary formats.

Vectors hold numbers of single precision, lengths and written numbers are of double precision. A
number of single precision is carried exactly; one of double precision goes to the nearest of
single precision, to the even one of two, and to infinity beyond the largest. Infinities, the sign
of a zero and NaN are kept (`double_nan`, `single_nan`).
-/

namespace WordSpace

open Float.Model (Format UnpackedFloat)

namespace Precision

/-- Rounds a number to a format: to nearest, ties to even. -/
def round (format : Format) : UnpackedFloat → UnpackedFloat
  | .finite sign mantissa exponent _ => UnpackedFloat.round format sign mantissa exponent
  | other => other

/-- The number of double precision that equals a number of single precision. -/
def double (x : Float32) : Float := .ofModel (.pack (round .binary64 x.toModel.unpack))

/-- The number of single precision nearest to a number of double precision. -/
def single (x : Float) : Float32 := .ofModel (.pack (round .binary32 x.toModel.unpack))

/-- What is not a number. -/
def nan : Float := .ofModel (.pack .notANumber)

/-- Positive infinity. -/
def infinity : Float := .ofModel (.pack (.infinity .positive))

theorem single_nan : single nan = .ofModel (.pack .notANumber) := by decide

theorem double_nan : double (.ofModel (.pack .notANumber)) = nan := by decide

end Precision

end WordSpace
