import CollectionSearch.Number.Binary

/-!
# Shortest decimals

The decimal text of a binary floating-point number in two steps: the fewest digits that read back
to the number, then their layout.

* `RoundingInterval` : the reals that round to a given number, in natural-number units.
* `FiniteBinary.shortest` : on the coarsest decimal grid that meets the interval, the grid point
  nearest to the number.
* `DecimalLayout` : how digits are written; `DecimalLayout.render` writes them.
* `plainLayout`, `jsonLayout` : the two layouts of this library.
-/

namespace CollectionSearch

/-! ## The digits -/

/-- Which of two equally close decimals is taken. -/
inductive TieRule where
  /-- The one with the even last digit. -/
  | toEven
  /-- The larger one. -/
  | up
  deriving DecidableEq

/-- A positive decimal `digits * 10 ^ power`. -/
structure Decimal where
  /-- The digits as one whole number. -/
  digits : Nat
  /-- The power of ten they are scaled by. -/
  power : Int
  deriving DecidableEq

/-- A number and the reals that round to it, all over one denominator. -/
structure RoundingInterval where
  /-- The numerator of the lower end. -/
  low : Nat
  /-- The numerator of the number itself. -/
  value : Nat
  /-- The numerator of the upper end. -/
  high : Nat
  /-- The common denominator. -/
  unit : Nat
  /-- Whether the ends round to the number as well. -/
  closed : Bool

namespace RoundingInterval

/-- Whether the real `num / den` rounds to the number. -/
def contains (i : RoundingInterval) (num den : Nat) : Bool :=
  if i.closed then i.low * den ≤ num * i.unit ∧ num * i.unit ≤ i.high * den
  else i.low * den < num * i.unit ∧ num * i.unit < i.high * den

/-- The multiple of `10 ^ power` in the interval that is nearest to the number, if one of the
number's two neighbours on that grid lies in the interval. -/
def nearestOn? (tie : TieRule) (i : RoundingInterval) (power : Int) : Option Decimal :=
  let num := powerAbove 10 power
  let den := powerBelow 10 power
  let below := (i.value * den) / (i.unit * num)
  let remainder := (i.value * den) % (i.unit * num)
  let lower := i.contains (below * num) den
  let upper := i.contains ((below + 1) * num) den
  let nearerBelow : Bool := 2 * remainder < i.unit * num
  let halfway : Bool := 2 * remainder = i.unit * num
  let takeBelow : Bool :=
    nearerBelow || (halfway && match tie with
      | .toEven => below % 2 == 0
      | .up => false)
  if lower && (takeBelow || !upper) then some ⟨below, power⟩
  else if upper then some ⟨below + 1, power⟩
  else none

end RoundingInterval

/-- The same decimal without trailing zeros among its digits. -/
def Decimal.normal (d : Decimal) : Decimal :=
  let zeros := ((Nat.toDigits 10 d.digits).reverse.takeWhile (· = '0')).length
  ⟨d.digits / Nat.pow 10 zeros, d.power + zeros⟩

namespace FiniteBinary

variable {format : BinaryFormat}

/-- The reals that round to a positive number: half a unit to both sides, but only a quarter
below a power of two, where the spacing halves. -/
def interval (x : FiniteBinary format) : RoundingInterval :=
  let quarters := 4 * x.significand
  let narrow :=
    x.significand = Nat.pow 2 (format.precision - 1) ∧ x.exponent > format.minExponent
  let num := powerAbove 2 (x.exponent - 2)
  { low := (quarters - if narrow then 1 else 2) * num
    value := quarters * num
    high := (quarters + 2) * num
    unit := powerBelow 2 (x.exponent - 2)
    closed := x.significand % 2 = 0 }

/-- A power of ten above every real that rounds to the number. -/
def topPower (x : FiniteBinary format) : Int :=
  ((Nat.log2 x.significand : Int) + 2 + x.exponent) * 30103 / 100000 + 2

/-- The fewest digits that read back to a positive number, and of those the nearest. Thirty-two
grids below the top power are more than any number needs; the exact value stands at the end
for totality. -/
def shortest (tie : TieRule) (x : FiniteBinary format) : Decimal :=
  let grids := (List.range 32).map fun (step : Nat) => x.topPower - (step : Int)
  match grids.findSome? (x.interval.nearestOn? tie) with
  | some d => d.normal
  | none => ⟨x.significand * powerAbove 2 x.exponent, 0⟩

end FiniteBinary

/-! ## The layout -/

/-- How a decimal is written. -/
structure DecimalLayout where
  /-- The choice between equally close digits. -/
  tie : TieRule
  /-- The powers of ten of the first digit that are written without an exponent; all if absent. -/
  positional : Option (Int × Int)
  /-- Whether a whole number is written with a final `.0`. -/
  wholePoint : Bool

/-- Plain numbers: never an exponent, and whole numbers bare. -/
def plainLayout : DecimalLayout := ⟨.up, none, false⟩

/-- Numbers in JSON text: an exponent outside `1e-5 ≤ |x| < 1e16`, and whole numbers with `.0`. -/
def jsonLayout : DecimalLayout := ⟨.toEven, some (-5, 15), true⟩

/-- Writes the digits with the point after the first `whole` of them, padding with zeros. -/
def placePoint (wholePoint : Bool) (digits : List Char) (whole : Int) : String :=
  if whole ≤ 0 then
    "0." ++ String.ofList (List.replicate (-whole).toNat '0' ++ digits)
  else if digits.length ≤ whole.toNat then
    String.ofList (digits ++ List.replicate (whole.toNat - digits.length) '0') ++
      (if wholePoint then ".0" else "")
  else
    String.ofList (digits.take whole.toNat) ++ "." ++ String.ofList (digits.drop whole.toNat)

/-- Writes the digits with one digit before the point and a signed exponent. -/
def withExponent (digits : List Char) (exponent : Int) : String :=
  let mantissa :=
    match digits with
    | [] => ""
    | [d] => String.singleton d
    | d :: rest => String.singleton d ++ "." ++ String.ofList rest
  mantissa ++ "e" ++ (if exponent < 0 then "-" else "+") ++ toString exponent.natAbs

namespace DecimalLayout

/-- Writes a positive decimal. -/
def renderDecimal (layout : DecimalLayout) (d : Decimal) : String :=
  let digits := Nat.toDigits 10 d.digits
  let leading : Int := d.power + digits.length - 1
  match layout.positional with
  | none => placePoint layout.wholePoint digits (leading + 1)
  | some (least, most) =>
    if least ≤ leading ∧ leading ≤ most then placePoint layout.wholePoint digits (leading + 1)
    else withExponent digits leading

/-- Writes a finite number. -/
def render {format : BinaryFormat} (layout : DecimalLayout) (x : FiniteBinary format) : String :=
  (if x.negative then "-" else "") ++
    if x.significand = 0 then (if layout.wholePoint then "0.0" else "0")
    else layout.renderDecimal (x.shortest layout.tie)

end DecimalLayout

/-- The plain text of any number: `NaN`, `inf`, `-inf` or the shortest plain digits. -/
def Binary.plainText {format : BinaryFormat} : Binary format → String
  | .finite x => plainLayout.render x
  | .infinite negative => if negative then "-inf" else "inf"
  | .notANumber => "NaN"

end CollectionSearch
