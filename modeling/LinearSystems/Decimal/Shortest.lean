import LinearSystems.Decimal.Binary64

/-!
# Shortest decimals

The decimal with the fewest digits that reads back as a given finite float.  A decimal reads back
when it lies in the interval of numbers that round to the float: half a gap to either side, the ends
included exactly when the significand is even, because a tie goes to the even significand.

For each number of digits only the two neighbours of the value on that decimal grid can be nearest
to it, so they are the candidates; the first number of digits with a hit wins, and of two hits the
nearer one.  Seventeen digits always suffice.
-/

namespace LinearSystems

namespace Decimal

/-- `digits · 10 ^ exponent` -/
structure Digits where
  digits : Nat
  exponent : Int
deriving DecidableEq

/-- The numbers that round to a float: from `low` to `high` around `value`, all over one
denominator. -/
structure Interval where
  low : Nat
  value : Nat
  high : Nat
  denominator : Nat
  closed : Bool

namespace Interval

/-- The interval of `significand · 2 ^ exponent`.  Below a power of two the gap is half as wide,
except at the bottom of the range. -/
def ofBinary (significand : Nat) (exponent : Int) : Interval :=
  let narrow : Bool := significand == hiddenBit && decide (-1074 < exponent)
  -- In quarters of a unit both ends are whole numbers, the nearer lower end included.
  let at' (quarters : Nat) := (Fraction.ofBinary quarters (exponent - 2)).numerator
  { low := at' (4 * significand - if narrow then 1 else 2)
    value := at' (4 * significand)
    high := at' (4 * significand + 2)
    denominator := (Fraction.ofBinary 1 (exponent - 2)).denominator
    closed := significand % 2 == 0 }

/-- The interval in units of `10 ^ exponent`. -/
def rescale (i : Interval) (exponent : Int) : Interval :=
  let at' (n : Nat) := (Fraction.mk n i.denominator).scaleByTen (-exponent)
  { i with
    low := (at' i.low).numerator
    value := (at' i.value).numerator
    high := (at' i.high).numerator
    denominator := (at' i.value).denominator }

/-- The natural number lies in the interval. -/
def holds (i : Interval) (n : Nat) : Bool :=
  let x := n * i.denominator
  if i.closed then decide (i.low ≤ x) && decide (x ≤ i.high)
  else decide (i.low < x) && decide (x < i.high)

/-- The natural number nearest to the value among its two neighbours in the interval; of two
equally near ones the even one. -/
def nearest? (i : Interval) : Option Nat :=
  let below := i.value / i.denominator
  let above := below + 1
  match i.holds below, i.holds above with
  | false, false => none
  | true, false => some below
  | false, true => some above
  | true, true =>
    let down := i.value - below * i.denominator
    let up := above * i.denominator - i.value
    if down < up then some below
    else if up < down then some above
    else some (below + below % 2)

end Interval

/-- The digits of the shortest decimal that reads back as `significand · 2 ^ exponent`, for a
positive significand. -/
def shortest (significand : Nat) (exponent : Int) : Digits :=
  let interval := Interval.ofBinary significand exponent
  let top := (Fraction.ofBinary significand exponent).decimalExponent
  let onGrid (count : Nat) : Option Digits :=
    let unit := top - count
    (interval.rescale unit).nearest?.map (⟨·, unit⟩)
  -- The default stands for a case that does not arise: seventeen digits hit every interval.
  ((List.range 17).findSome? onGrid).getD
    ⟨((Fraction.ofBinary significand exponent).scaleByTen (16 - top)).roundHalfEven, top - 16⟩

end Decimal

end LinearSystems
