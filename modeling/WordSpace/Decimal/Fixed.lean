import WordSpace.Decimal.Rounding
import WordSpace.Text.Digit

/-!
Fixed places: binary numbers written with a given number of digits behind the point.

The exact value is rounded once, a half going to the even digit. The sign is kept for numbers that
round to zero and for negative zero.
-/

namespace WordSpace.Decimal

open Float.Model (UnpackedFloat)

/-- `mantissa * 2 ^ exponent * scale`, rounded to a whole number. -/
def scaledMantissa (mantissa : Nat) (exponent : Int) (scale : Nat) : Nat :=
  match exponent with
  | .ofNat e => mantissa * Nat.pow 2 e * scale
  | .negSucc e => roundHalfEven (mantissa * scale) (Nat.pow 2 (e + 1))

/-- The digits of `units`, the last `places` of them behind a point. -/
def withPoint (places units : Nat) : List Char :=
  let ds := Text.digits units
  let padded := List.replicate (places + 1 - ds.length) '0' ++ ds
  let whole := padded.take (padded.length - places)
  if places = 0 then whole else whole ++ '.' :: padded.drop (padded.length - places)

/-- The minus sign of a negative number. -/
def signText : UnpackedFloat.Sign → String
  | .negative => "-"
  | .positive => ""

/-- A number with `places` digits behind the point. -/
def fixed (places : Nat) : UnpackedFloat → String
  | .notANumber => "nan"
  | .infinity sign => signText sign ++ "inf"
  | .zero sign => signText sign ++ String.ofList (withPoint places 0)
  | .finite sign mantissa exponent _ =>
    let scaled := scaledMantissa mantissa exponent (Nat.pow 10 places)
    signText sign ++ String.ofList (withPoint places scaled)

/-- The number of double precision nearest to a number rounded to `places` digits behind the
point. -/
def roundPlaces (places : Nat) (x : Float) : Float :=
  match x.toModel.unpack with
  | .finite sign mantissa exponent _ =>
    let scaled := scaledMantissa mantissa exponent (Nat.pow 10 places)
    let rounded := Float.ofScientific scaled true places
    match sign with
    | .negative => -rounded
    | .positive => rounded
  | _ => x

end WordSpace.Decimal
