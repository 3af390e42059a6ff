import WordSpace.Decimal.Fixed

/-!
Shortest text: the fewest digits that read back as the same number of double precision.

The numbers that round to a given one fill an interval. Among the multiples of a power of ten, the
ones with the fewest digits come with the highest power, so the first grid, from coarse to fine,
with a point in the interval has the shortest text; of two points on it the nearer one is taken.
-/

namespace WordSpace.Decimal

open Float.Model (UnpackedFloat)

/-! ## Digits -/

/-- A fraction of whole numbers. -/
structure Fraction where
  num : Nat
  den : Nat

namespace Fraction

/-- `n * 2 ^ e / 10 ^ k`. -/
def scaled (n : Nat) (e k : Int) : Fraction where
  num := n * Nat.pow 2 e.toNat * Nat.pow 10 (-k).toNat
  den := Nat.pow 2 (-e).toNat * Nat.pow 10 k.toNat

end Fraction

/-- The multiple of `10 ^ k` to write for `mantissa * 2 ^ exponent`, if one reads back as it. The
interval of numbers that read back reaches to the middles between neighbours; these belong to it if
the mantissa is even. Below a power of two the neighbour is at half the distance. -/
def gridPoint? (mantissa : Nat) (exponent k : Int) : Option Nat :=
  let closeBelow := mantissa = Nat.pow 2 52 ∧ -1074 < exponent
  let value := Fraction.scaled (4 * mantissa) (exponent - 2) k
  let unit := (Fraction.scaled 1 (exponent - 2) k).num
  let low := value.num - (if closeBelow then unit else 2 * unit)
  let high := value.num + 2 * unit
  let reads (point : Nat) : Bool :=
    let place := point * value.den
    if mantissa % 2 = 0 then low ≤ place && place ≤ high else low < place && place < high
  let floor := value.num / value.den
  let nearer := roundHalfEven value.num value.den
  let farther := if nearer = floor then floor + 1 else floor
  if nearer ≠ 0 && reads nearer then some nearer
  else if farther ≠ 0 && reads farther then some farther
  else none

/-- The powers of ten to try, from above the largest number of double precision to below the
smallest. -/
def gridPowers : List Int := (List.range 640).map fun i => 310 - Int.ofNat i

/-- The shortest digits of `mantissa * 2 ^ exponent`, and the power of ten that they count. -/
def shortestDigits (mantissa : Nat) (exponent : Int) : Nat × Int :=
  (gridPowers.findSome? fun k => (gridPoint? mantissa exponent k).map (·, k)).getD (mantissa, 0)

/-! ## Text -/

/-- Places `ds`, of which the point follows the first `point`, without an exponent. -/
def positional (ds : List Char) (point : Int) : List Char :=
  if point ≤ 0 then '0' :: '.' :: List.replicate (-point).toNat '0' ++ ds
  else if ds.length ≤ point.toNat then
    ds ++ List.replicate (point.toNat - ds.length) '0' ++ ['.', '0']
  else ds.take point.toNat ++ '.' :: ds.drop point.toNat

/-- Writes `ds` as a number between one and ten with an exponent of at least two digits. -/
def exponential (ds : List Char) (exponent : Int) : List Char :=
  let mantissa := match ds with
    | first :: second :: rest => first :: '.' :: second :: rest
    | ds => ds
  let size := Text.digits exponent.natAbs
  mantissa ++ 'e' :: (if exponent < 0 then '-' else '+') ::
    List.replicate (2 - size.length) '0' ++ size

/-- The shortest text of a positive number: without an exponent from `0.0001` up to sixteen digits
before the point. -/
def shortestText (mantissa : Nat) (exponent : Int) : String :=
  let (significand, power) := shortestDigits mantissa exponent
  let ds := Text.digits significand
  let point := ds.length + power
  if -4 < point ∧ point ≤ 16 then String.ofList (positional ds point)
  else String.ofList (exponential ds (point - 1))

/-- The shortest text of a number of double precision. -/
def shortest (x : Float) : String :=
  match x.toModel.unpack with
  | .notANumber => "nan"
  | .infinity sign => signText sign ++ "inf"
  | .zero sign => signText sign ++ "0.0"
  | .finite sign mantissa exponent _ => signText sign ++ shortestText mantissa exponent

end WordSpace.Decimal
