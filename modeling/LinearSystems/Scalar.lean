/-!
# Scalars

The arithmetic that matrices, vectors and eliminations run on, as a class, so that one set of
definitions is both the program, over binary floating point, and the object of exact statements,
over an ordered field.

`Scalar` asks for operations only and for no law: `Float` has almost none.  What a theorem needs of
the arithmetic it says itself, or it fixes the scalar.

The two comparisons of this library are strict: a value is zero within a tolerance when it lies
strictly between its two signs (`Scalar.isZero`), and it is significant when its magnitude reaches
the tolerance.
-/

namespace LinearSystems

/-- Operations of the numbers that a system is written in.  `isNaN` and `isInf` tell the values that
no constructor lets in; exact arithmetics have none. -/
class Scalar (K : Type) extends
    Zero K, One K, Add K, Sub K, Mul K, Div K, Neg K, LT K, LE K, BEq K, OfScientific K where
  abs : K → K
  isNaN : K → Bool
  isInf : K → Bool
  decideLt : (x y : K) → Decidable (x < y)
  decideLe : (x y : K) → Decidable (x ≤ y)

/-- Scalars with a square root, which lengths of vectors need. -/
class RootedScalar (K : Type) extends Scalar K where
  sqrt : K → K

/-- Scalars with an arc cosine and the number of degrees in a radian, which angles need. -/
class AngularScalar (K : Type) extends RootedScalar K where
  acos : K → K
  degreesPerRadian : K

namespace Scalar

variable {K : Type} [Scalar K]

instance (x y : K) : Decidable (x < y) := Scalar.decideLt x y

instance (x y : K) : Decidable (x ≤ y) := Scalar.decideLe x y

/-- The value is neither infinite nor undefined. -/
def isFinite (x : K) : Bool := !isNaN x && !isInf x

/-- `value` lies strictly within `tolerance` of zero. -/
def isZero (value tolerance : K) : Bool :=
  decide (-tolerance < value) && decide (value < tolerance)

/-- `value` lies strictly within `tolerance` of `target`. -/
def isClose (value target tolerance : K) : Bool :=
  decide (target - tolerance < value) && decide (value < target + tolerance)

/-- The magnitude stays below the tolerance. -/
def isSmall (tolerance x : K) : Bool := decide (abs x < tolerance)

/-- The magnitude reaches the tolerance.  Over floating point this is not the negation of
`isSmall`: an undefined value is neither. -/
def isSignificant (tolerance x : K) : Bool := decide (tolerance ≤ abs x)

end Scalar

/-- Binary floating point with IEEE rounding after every operation. -/
instance : AngularScalar Float where
  zero := 0.0
  one := 1.0
  abs := Float.abs
  isNaN := Float.isNaN
  isInf := Float.isInf
  decideLt _ _ := inferInstance
  decideLe _ _ := inferInstance
  sqrt := Float.sqrt
  acos := Float.acos
  degreesPerRadian := 180.0 / 3.141592653589793

/-! ## Laws of the zero tests

An elimination chooses its pivots with one test (`Scalar.isSignificant`) and guards its divisions
with another, written differently (`Scalar.isZero`).  `LawfulZeroTest` says what the passes need of
the two, and nothing about sums and products: a theorem that asks for no more holds whatever values
the row operations produce.

A value *vanishes* if it equals zero or is undefined.  `LawfulVanishing` adds that row operations
between vanishing entries leave vanishing entries, and `LawfulCleaning` that the final clean-up of an
elimination reaches every zero. -/

namespace Scalar

variable {K : Type} [Scalar K]

/-- The value equals zero, of whichever sign, or is undefined. -/
def vanishes (x : K) : Bool := x == 0 || isNaN x

end Scalar

/-- The two zero tests fit together, and zero is not significant. -/
class LawfulZeroTest (K : Type) [Scalar K] : Prop where
  isZero_of_isSignificant : ∀ {τ x : K},
    Scalar.isSignificant τ x = true → Scalar.isZero x τ = false
  isSignificant_zero : ∀ {τ : K}, 0 < τ → Scalar.isSignificant τ (0 : K) = false

/-- What vanishes is not significant, and vanishing entries only make vanishing entries. -/
class LawfulVanishing (K : Type) [Scalar K] : Prop extends LawfulZeroTest K where
  vanishes_zero : Scalar.vanishes (0 : K) = true
  isSignificant_of_vanishes : ∀ {τ x : K}, 0 < τ →
    Scalar.vanishes x = true → Scalar.isSignificant τ x = false
  vanishes_add_mul : ∀ {x y : K} (c : K),
    Scalar.vanishes x = true → Scalar.vanishes y = true → Scalar.vanishes (x + c * y) = true
  vanishes_mul : ∀ {x : K} (c : K), Scalar.vanishes x = true → Scalar.vanishes (x * c) = true

/-- What equals zero is small against every positive tolerance, so cleaning gives it the plain sign. -/
class LawfulCleaning (K : Type) [Scalar K] : Prop extends LawfulVanishing K where
  isSmall_of_beq_zero : ∀ {τ x : K}, 0 < τ → (x == 0) = true → Scalar.isSmall τ x = true

end LinearSystems
