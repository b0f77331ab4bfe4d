/-!
# Binary floating point, decoded

A 64-bit float as what it denotes: undefined, an infinity, or `± significand · 2 ^ exponent`.  All
decimal text is computed from this form in exact natural-number arithmetic; the float itself is
never asked for its digits.
-/

namespace LinearSystems

/-- What a 64-bit float denotes.  A finite value keeps the sign of zero. -/
inductive Binary64 where
  | undefined
  | infinite (negative : Bool)
  | finite (negative : Bool) (significand : Nat) (exponent : Int)
deriving DecidableEq

/-- The leading bit of a normal significand, which the encoding leaves out: `2 ^ 52`. -/
def hiddenBit : Nat := 4503599627370496

namespace Binary64

/-- Decodes the sign bit, the eleven bits of the exponent field and the 52 fraction bits. -/
def ofBits (bits : Nat) : Binary64 :=
  let negative : Bool := bits >>> 63 % 2 == 1
  let field : Nat := bits >>> 52 % 2048
  let fraction : Nat := bits % hiddenBit
  if field = 2047 then (if fraction = 0 then infinite negative else undefined)
  -- A zero field has no hidden bit and the exponent of the field one.
  else if field = 0 then finite negative fraction (-1074)
  else finite negative (hiddenBit + fraction) ((field : Int) - 1075)

def ofFloat (x : Float) : Binary64 := ofBits x.toBits.toNat

end Binary64

/-- A nonnegative rational number that need not be in lowest terms. -/
structure Fraction where
  numerator : Nat
  denominator : Nat

namespace Fraction

/-- `significand · 2 ^ exponent` -/
def ofBinary (significand : Nat) (exponent : Int) : Fraction :=
  match exponent with
  | .ofNat e => ⟨significand * Nat.pow 2 e, 1⟩
  | .negSucc e => ⟨significand, Nat.pow 2 (e + 1)⟩

/-- The value multiplied by a power of ten. -/
def scaleByTen (x : Fraction) (power : Int) : Fraction :=
  match power with
  | .ofNat e => ⟨x.numerator * Nat.pow 10 e, x.denominator⟩
  | .negSucc e => ⟨x.numerator, x.denominator * Nat.pow 10 (e + 1)⟩

def floor (x : Fraction) : Nat := x.numerator / x.denominator

/-- The nearest natural number; halfway between two, the even one. -/
def roundHalfEven (x : Fraction) : Nat :=
  let quotient := x.floor
  let twice := 2 * (x.numerator % x.denominator)
  if twice < x.denominator then quotient
  else if x.denominator < twice then quotient + 1
  else quotient + quotient % 2

/-- The number of decimal digits, one for zero. -/
def digitCount (n : Nat) : Nat := (Nat.toDigits 10 n).length

/-- The exponent `e` with `10 ^ e ≤ x < 10 ^ (e + 1)`, for a positive value. -/
def decimalExponent (x : Fraction) : Int :=
  -- The quotient of an `a`-digit and a `b`-digit number has `a - b` or `a - b + 1` digits.
  let guess : Int := digitCount x.numerator - digitCount x.denominator
  if 0 < (x.scaleByTen (-guess)).floor then guess else guess - 1

end Fraction

end LinearSystems
