import LinearSystems.Value.Bulk

/-!
# Numbers of either sort

Numbers are exact integers or floats, and the two compare exactly.  Sums, differences and products of
the two are floats.
-/

namespace LinearSystems

/-- An exact integer or a float.  Comparisons between the two are exact. -/
inductive Number where
  | int (n : Int)
  | float (x : Float)

namespace Number

/-- The float nearest to the number; integers beyond the range of floats have none. -/
def toFloat : Number → Except ArgumentFault Float
  | int n =>
    let x := Float.ofInt n
    if x.isInf then .error .tooLarge else .ok x
  | float x => .ok x

/-- A finite float as a fraction with a sign, over a common denominator with an integer. -/
def scaled (negative : Bool) (significand : Nat) (exponent : Int) (n : Int) : Int × Int :=
  let value := Fraction.ofBinary significand exponent
  let x : Int := value.numerator
  (if negative then -x else x, n * value.denominator)

/-- `x < n` for a float and an integer. -/
def floatLtInt (x : Float) (n : Int) : Bool :=
  match Binary64.ofFloat x with
  | .undefined => false
  | .infinite negative => negative
  | .finite negative significand exponent =>
    let (a, b) := scaled negative significand exponent n
    a < b

/-- `n < x` for an integer and a float. -/
def intLtFloat (n : Int) (x : Float) : Bool :=
  match Binary64.ofFloat x with
  | .undefined => false
  | .infinite negative => !negative
  | .finite negative significand exponent =>
    let (a, b) := scaled negative significand exponent n
    b < a

def lt : Number → Number → Bool
  | int a, int b => a < b
  | float x, float y => x < y
  | float x, int n => floatLtInt x n
  | int n, float x => intLtFloat n x

def neg : Number → Number
  | int n => int (-n)
  | float x => float (-x)

/-- Combines two integers exactly and everything else as floats. -/
def combine (onInts : Int → Int → Int) (onFloats : Float → Float → Float) :
    Number → Number → Except ArgumentFault Number
  | int a, int b => .ok (int (onInts a b))
  | a, b => do return float (onFloats (← a.toFloat) (← b.toFloat))

/-- Neither number is less than the other, and both are defined. -/
def eq : Number → Number → Bool
  | int a, int b => a == b
  | float x, float y => x == y
  | float x, int n | int n, float x => x == x && !floatLtInt x n && !intLtFloat n x

/-- The first number is at most the second. -/
def le (a b : Number) : Bool := lt a b || eq a b

end Number

namespace Value

/-- The number that a value is, truth values being one and zero. -/
def toNumber? : Value → Option Number
  | bool b | wordBool b => some (.int (if b then 1 else 0))
  | int n | wordInt n => some (.int n)
  | float x | wordFloat x => some (.float x)
  | bulk .uint64 [] [int n] => some (.int n)
  | _ => .none

def ofNumber : Number → Value
  | .int n => int n
  | .float x => float x

/-- The real and the imaginary part of a value that is a number. -/
def toComplex? (v : Value) : Except ArgumentFault (Option (Float × Float)) :=
  match v, v.toNumber? with
  | complex re im, _ => .ok (some (re, im))
  | bulk .complex [] [complex re im], _ => .ok (some (re, im))
  | _, some n => do return some (← n.toFloat, 0)
  | _, .none => .ok .none

end Value

end LinearSystems
