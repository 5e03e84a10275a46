/-!
# Binary floating-point numbers

Numbers of a binary interchange format as exact data: a sign, a whole significand and a power of
two. Rounding a quotient to the nearest number of a format is done in natural-number arithmetic,
so that every step can be computed and reasoned about.

* `BinaryFormat` : precision and exponent range, with `binary64` and `binary32`.
* `FiniteBinary` : a finite number, `± significand * 2 ^ exponent`.
* `Binary` : a finite number, an infinity or a not-a-number.
* `FiniteBinary.ofRatio?`, `FiniteBinary.ofDecimal?`, `FiniteBinary.ofInt?` : rounding to nearest,
  a tie to the even significand, `none` where the magnitude overflows.
-/

namespace CollectionSearch

/-! ## Formats and values -/

/-- The parameters of a binary floating-point format. -/
structure BinaryFormat where
  /-- Bits of a full significand. -/
  precision : Nat
  /-- Exponent of the smallest numbers, which have a short significand. -/
  minExponent : Int
  /-- Exponent of the largest finite numbers. -/
  maxExponent : Int
  /-- There are exponents. -/
  exponents : minExponent ≤ maxExponent
  deriving DecidableEq

/-- The 64-bit interchange format. -/
def binary64 : BinaryFormat := ⟨53, -1074, 971, by decide⟩

/-- The 32-bit interchange format. -/
def binary32 : BinaryFormat := ⟨24, -149, 104, by decide⟩

/-- A finite number of the format: `± significand * 2 ^ exponent`. -/
structure FiniteBinary (format : BinaryFormat) where
  /-- Whether the sign is minus; zero has both signs. -/
  negative : Bool
  /-- The whole significand. -/
  significand : Nat
  /-- The power of two it is scaled by. -/
  exponent : Int
  /-- The significand is below two to the precision, and the exponent is one of the format. -/
  representable : significand < Nat.pow 2 format.precision ∧
    format.minExponent ≤ exponent ∧ exponent ≤ format.maxExponent
  deriving DecidableEq

/-- A number of the format, finite or not. -/
inductive Binary (format : BinaryFormat) where
  | finite (x : FiniteBinary format)
  | infinite (negative : Bool)
  | notANumber
  deriving DecidableEq

/-- A number of the 64-bit format. -/
abbrev Double := Binary binary64

/-- A number of the 32-bit format. -/
abbrev Single := Binary binary32

/-! ## Scaling by powers -/

/-- The factor that a power contributes to a numerator: itself, or one when it is a fraction. -/
def powerAbove (base : Nat) (k : Int) : Nat := Nat.pow base k.toNat

/-- The factor that a power contributes to a denominator. -/
def powerBelow (base : Nat) (k : Int) : Nat := Nat.pow base (-k).toNat

/-- The quotient rounded to the nearest whole number, a half to the even neighbour. -/
def roundHalfEven (num den : Nat) : Nat :=
  let q := num / den
  let r := num % den
  if 2 * r > den ∨ (2 * r = den ∧ q % 2 = 1) then q + 1 else q

namespace FiniteBinary

variable {format : BinaryFormat}

/-- Zero with the given sign. -/
def zero (negative : Bool) : FiniteBinary format :=
  ⟨negative, 0, format.minExponent, Nat.pow_pos (by decide), Int.le_refl _, format.exponents⟩

/-- The number with a significand and an exponent, if the format has them. -/
def ofParts? (format : BinaryFormat) (negative : Bool) (significand : Nat) (exponent : Int) :
    Option (FiniteBinary format) :=
  if h : significand < Nat.pow 2 format.precision ∧
      format.minExponent ≤ exponent ∧ exponent ≤ format.maxExponent then
    some ⟨negative, significand, exponent, h⟩
  else none

/-- The exponent at which a positive quotient has a full significand, but not below the smallest
exponent of the format. -/
def exponentFor (format : BinaryFormat) (num den : Nat) : Int :=
  let log : Int := (Nat.log2 num : Int) - (Nat.log2 den : Int)
  let below := num * powerBelow 2 log < den * powerAbove 2 log
  let full := if below then log - format.precision else log - format.precision + 1
  max full format.minExponent

/-- The number of the format nearest to `± num / den`, a tie going to the even significand;
`none` when the magnitude is beyond the largest finite number. -/
def ofRatio? (format : BinaryFormat) (negative : Bool) (num den : Nat) :
    Option (FiniteBinary format) :=
  if num = 0 then some (zero negative)
  else
    let e := exponentFor format num den
    let m := roundHalfEven (num * powerBelow 2 e) (den * powerAbove 2 e)
    -- a significand that was rounded up to two to the precision is carried over
    if m < Nat.pow 2 format.precision then ofParts? format negative m e
    else ofParts? format negative (Nat.pow 2 (format.precision - 1)) (e + 1)

/-- The number of decimal digits of a natural number, one for zero. -/
def decimalLength (n : Nat) : Nat := (Nat.toDigits 10 n).length

/-- The number nearest to `± digits * 10 ^ power`. Magnitudes that no format reaches are decided
by their size alone, so that the exponent may be of any length. -/
def ofDecimal? (format : BinaryFormat) (negative : Bool) (digits : Nat) (power : Int) :
    Option (FiniteBinary format) :=
  if digits = 0 then some (zero negative)
  else
    let size : Int := decimalLength digits + power
    if size > 400 then none
    else if size < -400 then some (zero negative)
    else ofRatio? format negative (digits * powerAbove 10 power) (powerBelow 10 power)

/-- The number nearest to an integer. -/
def ofInt? (format : BinaryFormat) (n : Int) : Option (FiniteBinary format) :=
  ofRatio? format (n < 0) n.natAbs 1

/-- The number of another format nearest to this one. -/
def convert? (target : BinaryFormat) (x : FiniteBinary format) : Option (FiniteBinary target) :=
  ofRatio? target x.negative (x.significand * powerAbove 2 x.exponent) (powerBelow 2 x.exponent)

end FiniteBinary

namespace Binary

variable {format : BinaryFormat}

/-- A rounded finite number, or the infinity of the sign when rounding overflowed. -/
def ofRounded (negative : Bool) : Option (FiniteBinary format) → Binary format
  | some x => .finite x
  | none => .infinite negative

/-- The number nearest to an integer. -/
def ofInt (format : BinaryFormat) (n : Int) : Binary format :=
  ofRounded (n < 0) (FiniteBinary.ofInt? format n)

/-- The number of another format nearest to this one; too large a magnitude becomes infinite. -/
def convert (target : BinaryFormat) : Binary format → Binary target
  | .finite x => ofRounded x.negative (x.convert? target)
  | .infinite s => .infinite s
  | .notANumber => .notANumber

/-- The finite number, if this is one. -/
def finite? : Binary format → Option (FiniteBinary format)
  | .finite x => some x
  | _ => none

end Binary

end CollectionSearch
