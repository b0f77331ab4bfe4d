/-!
# Faults

Why an operation on matrices, vectors, equations or systems has no answer.  A `Fault` is a cause
with the data of that cause; its wording is in `LinearSystems.Display.Messages`.

Causes are sorted into a small hierarchy of classes (`FaultClass`), so that a caller can react to
"some argument was refused" without knowing every cause.  `FaultClass.ancestry` is the chain from a
class to the root.
-/

namespace LinearSystems

/-- Classes of faults that are the library's own. -/
inductive FaultClass where
  | any
  | validation
  | dimension
  | shapeMismatch
  | degenerate
  | numerical
  | invariantViolation
deriving DecidableEq

namespace FaultClass

/-- The class itself, the class above it, and so on up to `any`. -/
def ancestry : FaultClass → List FaultClass
  | any => [any]
  | validation => [validation, any]
  | dimension => [dimension, validation, any]
  | shapeMismatch => [shapeMismatch, dimension, validation, any]
  | degenerate => [degenerate, validation, any]
  | numerical => [numerical, any]
  | invariantViolation => [invariantViolation, numerical, any]

/-- Each class above a class has its own ancestry as the rest of the chain. -/
theorem ancestry_suffix {c p : FaultClass} (h : p ∈ c.ancestry) : p.ancestry <:+ c.ancestry := by
  cases c <;> cases p <;> revert h <;> decide

end FaultClass

/-- What kind of failure an answer reports: one of the library's own classes, or a failure that
is not about linear algebra at all. -/
inductive FaultKind where
  | own (c : FaultClass)
  /-- A value of the wrong sort. -/
  | illTyped
  /-- A value of the right sort that cannot be read. -/
  | illValued
  | indexRange
  | overflow
  | zeroDivision
  | missingKey
  /-- An operation that does not exist for elements of these types. -/
  | elementTypes
  /-- A property or an operation that a value does not have. -/
  | missingAttribute
  /-- An operation called before the one it depends on. -/
  | lifecycle
  /-- Something that takes up too much room. -/
  | memory
deriving DecidableEq

/-- The two families of containers that messages tell apart. -/
inductive Family where
  | matrix
  | vector
deriving DecidableEq

/-- Operations that can refuse their operands. -/
inductive Operation where
  | multiply
  | add
  | subtract
  | fromPoints
  | dot
  | angle
  | isParallel
  | normalize
  | projection
  | cross
  | areaOfParallelogram
  | areaOfTriangle
deriving DecidableEq

/-- Extents of a rectangular table: rows, then columns. -/
abbrev Extents := Nat × Nat

/-- A cause of failure, over the scalars that it may have to show. -/
inductive Fault (K : Type) where
  /-- An array has another number of axes than the argument takes. -/
  | axisCount (argument : String) (expected : Nat) (shape : List Nat)
  /-- Some axis of the array has length zero. -/
  | empty (argument : String) (shape : List Nat)
  /-- The array holds undefined or infinite entries; both are counted. -/
  | nonFinite (argument : String) (undefined infinite : Nat)
  /-- A tolerance that is not a positive finite number. -/
  | tolerance (value : K)
  /-- A vector of which no extent is one. -/
  | notThin (shape : List Nat)
  /-- Two points with different numbers of coordinates. -/
  | pointSizes (left right : Nat)
  /-- An elementwise operation on different extents. -/
  | unequalExtents (family : Family) (operation : Operation) (left right : Extents)
  /-- A product whose inner extents differ. -/
  | innerExtents (family : Family) (left right : Extents)
  /-- A pairing of vectors with different numbers of components. -/
  | unequalDimensions (operation : Operation) (left right : Extents)
  /-- A direction was asked of a vector that is zero within its tolerance. -/
  | zeroVector (operation : Operation)
  | notThreeDimensional (operation : Operation)
  | indexRange (argument : String) (index size : Int)
  /-- The offset of an equation is undefined or infinite. -/
  | nonFiniteOffset (value : K)
  /-- A point was asked of an equation whose normal is zero within its tolerance. -/
  | zeroNormal
  /-- A point handed to an equation has the wrong number of coordinates. -/
  | pointCoordinates (expected actual : Nat)
  /-- A candidate solution handed to a system has the wrong number of coordinates. -/
  | candidateCoordinates (expected actual : Nat)
  /-- A system without equations; `argument` is what was empty. -/
  | noEquations (argument : String)
  | noUnknowns
  | unequalEquationDimensions (dimensions : List Nat)
  | unequalEquationTolerances (tolerances : List K)
  | unequalLengths (lengths : List (String × Nat))
  /-- A selected pivot reads as zero at the moment it is scaled to one. -/
  | vanishedPivot (row column : Int) (value tolerance : K)
  | parameterCount (expected actual : Nat)
  | freeVariableCount (directions freeVariables : Nat)
  /-- Component lists of different lengths, neither of length one. -/
  | unequalComponents (left right : Nat)
  | zeroDivision

namespace Fault

variable {K : Type}

def kind : Fault K → FaultKind
  | axisCount .. | notThin .. | notThreeDimensional .. | candidateCoordinates ..
  | unequalEquationDimensions .. | unequalLengths .. => .own .dimension
  | empty .. | zeroVector .. | zeroNormal | noEquations .. | noUnknowns => .own .degenerate
  | nonFinite .. | tolerance .. | indexRange .. | nonFiniteOffset .. | pointCoordinates ..
  | unequalEquationTolerances .. | parameterCount .. | freeVariableCount .. => .own .validation
  | pointSizes .. | unequalExtents .. | innerExtents .. | unequalDimensions .. =>
    .own .shapeMismatch
  | vanishedPivot .. => .own .invariantViolation
  | unequalComponents .. => .illValued
  | zeroDivision => .zeroDivision

/-- The operation and the two operand shapes that a shape mismatch reports. -/
def operands : Fault K → Option (Operation × List Nat × List Nat)
  | pointSizes l r => some (.fromPoints, [l], [r])
  | unequalExtents _ o l r => some (o, [l.1, l.2], [r.1, r.2])
  | innerExtents _ l r => some (.multiply, [l.1, l.2], [r.1, r.2])
  | unequalDimensions o l r => some (o, [l.1, l.2], [r.1, r.2])
  | _ => none

/-- Exactly the shape mismatches have operands to report. -/
theorem operands_isSome_iff (f : Fault K) :
    f.operands.isSome = true ↔ f.kind = .own .shapeMismatch := by
  cases f <;> simp [operands, kind]

end Fault

end LinearSystems
