import LinearSystems.Decimal.Shortest

/-!
# Decimal notation of floats

Three notations, all correctly rounded from the exact binary value.

* `shortest`: the fewest digits that read back; positional for magnitudes from `10 ^ -4` up to, but
  not including, `10 ^ 16`, and always with a point there.
* `fixed p`: exactly `p` digits after the point.
* `general p`: `p` significant digits without trailing zeros, positional when the exponent lies
  between `-4` and `p`; `p = 0` counts as one.

Exponents have a sign and at least two digits.  Halfway cases go to the even digit.  An undefined
value is `nan` whatever its sign, and the sign of zero is kept.
-/

namespace LinearSystems

namespace Decimal

/-- The decimal digits of a natural number. -/
def digitsOf (n : Nat) : List Char := Nat.toDigits 10 n

/-- The digits padded with zeros on the left to a width. -/
def zeroPadded (width : Nat) (digits : List Char) : List Char :=
  List.replicate (width - digits.length) '0' ++ digits

/-- The list without the zeros at its end. -/
def dropTrailingZeros (digits : List Char) : List Char :=
  (digits.reverse.dropWhile (· == '0')).reverse

/-- A point followed by the digits, or nothing when there are none. -/
def fractionPart (digits : List Char) : List Char :=
  match digits with
  | [] => []
  | _ => '.' :: digits

/-- The sign and at least two digits of an exponent, after the letter `e`. -/
def exponentPart (exponent : Int) : List Char :=
  'e' :: (if exponent < 0 then '-' else '+') :: zeroPadded 2 (digitsOf exponent.natAbs)

/-- Digits `d₀d₁…` read as `d₀.d₁…` times a power of ten. -/
def scientific (digits : List Char) (exponent : Int) : List Char :=
  digits.take 1 ++ fractionPart (digits.drop 1) ++ exponentPart exponent

/-- Digits `d₀d₁…` read as `d₀.d₁…` times a power of ten, written out with a point; the two parts
before and after it. -/
def positional (digits : List Char) (exponent : Int) : List Char × List Char :=
  match exponent with
  | .ofNat e => (digits.take (e + 1) ++ List.replicate (e + 1 - digits.length) '0',
      digits.drop (e + 1))
  | .negSucc e => (['0'], List.replicate e '0' ++ digits)

/-- A text with a minus in front where the value is negative. -/
def signed (negative : Bool) (magnitude : List Char) : String :=
  String.ofList (if negative then '-' :: magnitude else magnitude)

/-- The notation of the undefined and infinite values; the finite ones are left to the caller. -/
def withSpecials (finite : Nat → Int → List Char) : Binary64 → String
  | .undefined => "nan"
  | .infinite negative => signed negative "inf".toList
  | .finite negative significand exponent => signed negative (finite significand exponent)

/-- The magnitude with the fewest digits that read back. -/
def shortestMagnitude (significand : Nat) (exponent : Int) : List Char :=
  if significand = 0 then "0.0".toList
  else
    let found := Decimal.shortest significand exponent
    let all := digitsOf found.digits
    let top := (all.length : Int) - 1 + found.exponent
    let digits := dropTrailingZeros all
    if -4 ≤ top ∧ top < 16 then
      let (whole, rest) := positional digits top
      whole ++ '.' :: (if rest.isEmpty then ['0'] else rest)
    else scientific digits top

/-- The most digits after the point that a value with this binary exponent has: halving adds one. -/
def exactPlaces (exponent : Int) : Nat := (-exponent).toNat

/-- The most significant digits that a value has.  Doubling adds at most one to those of the
significand, and so does halving, which is a product with five and a shift of the point. -/
def exactDigits (significand : Nat) (exponent : Int) : Nat :=
  (digitsOf significand).length + exponent.natAbs

/-- The magnitude with a fixed number of digits after the point.  Those behind the last that the value
has are zeros. -/
def fixedMagnitude (places significand : Nat) (exponent : Int) : List Char :=
  let known := min places (exactPlaces exponent)
  let units := ((Fraction.ofBinary significand exponent).scaleByTen known).roundHalfEven
  let digits := zeroPadded (known + 1) (digitsOf units)
  digits.take (digits.length - known) ++
    fractionPart (digits.drop (digits.length - known) ++ List.replicate (places - known) '0')

/-- The value rounded to `precision + 1` significant digits, as digits and the exponent of the first
one.  Rounding up to the next power of ten moves the exponent. -/
def roundSignificant (precision significand : Nat) (exponent : Int) : List Char × Int :=
  let value := Fraction.ofBinary significand exponent
  let top := value.decimalExponent
  let digits := digitsOf (value.scaleByTen (precision - top)).roundHalfEven
  -- One digit too many means that nines rounded up to a one and zeros.
  if precision + 1 < digits.length then (digits.take (precision + 1), top + 1) else (digits, top)

/-- The magnitude with at most `max precision 1` significant digits. -/
def generalMagnitude (precision significand : Nat) (exponent : Int) : List Char :=
  if significand = 0 then ['0']
  else
    let known := min precision (exactDigits significand exponent)
    let (digits, top) := roundSignificant (known - 1) significand exponent
    let shown := dropTrailingZeros digits
    if -4 ≤ top ∧ top < (max precision 1 : Nat) then
      let (whole, rest) := positional shown top
      whole ++ fractionPart rest
    else scientific shown top

/-- The digits before and after the point of the shortest decimal, or of the value rounded to `most`
places when the shortest decimal has more.  No zeros stand at the end. -/
def placesUpTo (most significand : Nat) (exponent : Int) : List Char × List Char :=
  let found := Decimal.shortest significand exponent
  let all := digitsOf found.digits
  let (whole, rest) := positional (dropTrailingZeros all) ((all.length : Int) - 1 + found.exponent)
  if significand = 0 then (['0'], [])
  else if rest.length ≤ most then (whole, rest)
  else
    let units := ((Fraction.ofBinary significand exponent).scaleByTen most).roundHalfEven
    let digits := zeroPadded (most + 1) (digitsOf units)
    (digits.take (digits.length - most), dropTrailingZeros (digits.drop (digits.length - most)))

/-- The digits of the shortest decimal and the exponent of the first one, or those of the value
rounded to `most` digits after the first when the shortest decimal has more.  No zeros stand at the
end. -/
def digitsUpTo (most significand : Nat) (exponent : Int) : List Char × Int :=
  let found := Decimal.shortest significand exponent
  let all := digitsOf found.digits
  let digits := dropTrailingZeros all
  if significand = 0 then (['0'], 0)
  else if digits.length ≤ most + 1 then (digits, (all.length : Int) - 1 + found.exponent)
  else
    let (digits, top) := roundSignificant most significand exponent
    (dropTrailingZeros digits, top)

/-- The value rounded to `places` digits after the first, and the exponent of the first one. -/
def roundedDigits (places significand : Nat) (exponent : Int) : List Char × Int :=
  if significand = 0 then (List.replicate (places + 1) '0', 0)
  else roundSignificant places significand exponent

/-! ## Floats as text -/

/-- The shortest text that reads back as the same float. -/
def shortestText (x : Float) : String := withSpecials shortestMagnitude (Binary64.ofFloat x)

/-- The text with `places` digits after the point. -/
def fixed (places : Nat) (x : Float) : String :=
  withSpecials (fixedMagnitude places) (Binary64.ofFloat x)

/-- The text with at most `precision` significant digits. -/
def general (precision : Nat) (x : Float) : String :=
  withSpecials (generalMagnitude precision) (Binary64.ofFloat x)

end Decimal

end LinearSystems
