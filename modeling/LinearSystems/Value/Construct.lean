import LinearSystems.Value.Checks
import LinearSystems.Value.Index

/-!
# Constructors from values

Matrices, vectors, equations and systems from arguments of unknown sort, and solving what reads as a
system.  Each constructor first reads its arrays, then checks them as the typed constructors do, and
resolves the tolerance last; so of several faults the one in the data wins.
-/

namespace LinearSystems

namespace Mat

/-- A matrix from nested sequences with two levels. -/
def ofValue (elements tolerance : Value) : Except Refusal (Mat Float) := do
  let t ← elements.toTensor "elements"
  match t.shape with
  | [m, d] =>
    let grid := t.toGrid m d
    requireElements grid
    return ⟨m, d, grid, ← tolerance.toTolerance⟩
  | shape => throw (.fault (.axisCount "elements" 2 shape))

end Mat

namespace Vec

/-- The vector with these components, the tolerance still to be read. -/
def ofOriented {n : Nat} (components : Vector Float n) (orientation : Orientation)
    (tolerance : Value) : Except Refusal (Vec Float) := do
  requireComponents components orientation
  return ⟨n, components, orientation, ← tolerance.toTolerance⟩

/-- A vector from one column, one row, or a plain sequence, which is a column. -/
def ofValue (elements tolerance : Value) : Except Refusal (Vec Float) := do
  let t ← elements.toTensor "elements"
  match t.shape with
  | [_] | [_, 1] => ofOriented t.toVector .column tolerance
  | [1, _] => ofOriented t.toVector .row tolerance
  | shape => throw (.fault (.notThin shape))

/-- The orientation that is chosen by whether a vector shall be horizontal. -/
def orientationOf (horizontal : Value) : Except SortFault Orientation := do
  return if ← horizontal.isTruthy then .row else .column

/-- A vector from all elements of nested sequences, whatever their shape. -/
def ofValues (values horizontal tolerance : Value) : Except Refusal (Vec Float) := do
  let t ← values.toTensor "values"
  ofOriented t.toVector (← orientationOf horizontal) tolerance

/-- A vector of zeros, as many as an array of the given extents has entries. -/
def zeros (room : Nat) (extents horizontal tolerance : Value) : Except Refusal (Vec Float) := do
  let size := entryCount (← extents.toExtents room)
  ofOriented (Vector.replicate size 0) (← orientationOf horizontal) tolerance

/-- The column from the first point to the second. -/
def ofPointValues (p q tolerance : Value) : Except Refusal (Vec Float) := do
  let a ← p.toTensor "p1"
  let b ← q.toTensor "p2"
  if h : a.entries.length = b.entries.length then
    ofOriented (Vector.ofFn fun i => b.toVector.get (i.cast h) - a.toVector.get i) .column tolerance
  else throw (.fault (.pointSizes a.entries.length b.entries.length))

end Vec

namespace LinearEquation

/-- An equation from a vector and an offset. -/
def ofValues (normal offset : Value) : Except Refusal (LinearEquation Float) :=
  match normal with
  | .vec v => do
    let k ← offset.toFloat
    ofNormal v k
  | v => .error (.argument (.notAVector v.typeName))

/-- An equation from its coefficients and an offset. -/
def ofCoefficients (coefficients offset tolerance : Value) (form : EquationForm := .general) :
    Except Refusal (LinearEquation Float) := do
  let normal ← Vec.ofValues coefficients (.bool false) tolerance
  let k ← offset.toFloat
  ofNormal normal k form

/-- The line `a x + b y = k`. -/
def line (a b offset tolerance : Value) : Except Refusal (LinearEquation Float) :=
  ofCoefficients (.list [a, b]) offset tolerance .line

/-- The plane `a x + b y + c z = k`. -/
def plane (a b c offset tolerance : Value) : Except Refusal (LinearEquation Float) :=
  ofCoefficients (.list [a, b, c]) offset tolerance .plane

end LinearEquation

namespace Value

/-- The equations among the items of a sequence, counted from `position`; every item has to be
one. -/
def toEquations : Nat → List Value → Except ArgumentFault (List (LinearEquation Float))
  | _, [] => .ok []
  | position, equation e :: rest => do return e :: (← toEquations (position + 1) rest)
  | position, v :: _ => .error (.notAnEquation position v.typeName)

/-- The coordinates of a point: a vector's components, or the elements of nested sequences. -/
def toCoordinates (argument : String) : Value → Except ArgumentFault (Tensor Float)
  | vec v => .ok (.ofVector v.components)
  | v => v.toTensor argument

end Value

namespace LinearSystem

/-- A system of typed equations, the tolerance still to be read. -/
def ofEquationList (equations : List (LinearEquation Float)) (tolerance : Value) :
    Except Refusal (LinearSystem Float) := do
  -- The dimensions are looked at before the tolerance is read, so their fault wins.
  let chosen ← match equations, tolerance with
    | [], _ | _, .none => pure none
    | first :: rest, tolerance =>
      let _ ← requireEqualDimensions first rest
      some <$> tolerance.toTolerance
  ofEquations equations chosen

/-- A system from a sequence of equations. -/
def ofEquationValues (equations tolerance : Value) : Except Refusal (LinearSystem Float) := do
  let items ← equations.items
  let equations ← Value.toEquations 0 items
  ofEquationList equations tolerance

/-- A system from a coefficient array and offsets.  A coefficient array with one axis is a single
equation; offsets may be one column or a single number. -/
def ofArrayValues (coefficients offsets tolerance : Value) :
    Except Refusal (LinearSystem Float) := do
  let a ← coefficients.toTensor "A"
  let b ← offsets.toTensor "b"
  let shape := match a.shape with
    | [n] => [1, n]
    | shape => shape
  match shape, b.shape with
  | [m, d], [] | [m, d], [_] | [m, d], [_, 1] =>
    let grid := a.toGrid m d
    let ⟨h⟩ ← requireArrays grid b.toVector
    ofArrays grid (b.toVector.cast h) (← tolerance.toTolerance)
  | [_, _], shape => throw (.fault (.axisCount "b" 1 shape))
  | shape, _ => throw (.fault (.axisCount "A" 2 shape))

/-- A system, or a sequence of equations, under a tolerance of its own if one is given. -/
def ofValue (equations tolerance : Value) : Except Refusal (LinearSystem Float) :=
  match equations, tolerance with
  | .system s, .none => .ok s
  | .system s, tolerance => do s.withTolerance (← tolerance.toTolerance)
  | .equation _, _ => .error (.argument .singleEquation)
  | equations, tolerance => ofEquationValues equations tolerance

/-- The choices of a solver; all of them mean the only one. -/
def solverNames : List String := ["auto", "cpu"]

def requireSolver (backend : Value) : Except ArgumentFault Unit := do
  if ← backend.isAmong (solverNames.map .text) then return else throw (.unknownBackend backend)

/-- Solves what reads as a system, with the solver that is asked for. -/
def solveValue (equations tolerance backend : Value) : Except Refusal (Solution Float) := do
  let system ← ofValue equations tolerance
  requireSolver backend
  solve system

/-- `A x - b` at a point of unknown sort. -/
def residualsAt (s : LinearSystem Float) (x : Value) : Except Refusal (Tensor Float) := do
  let point ← x.toCoordinates "x"
  return .ofVector (← s.residuals point.toVector)

/-- Whether every equation holds at a point of unknown sort. -/
def isSatisfiedByValue (s : LinearSystem Float) (x : Value) : Except Refusal Bool := do
  let point ← x.toCoordinates "x"
  s.isSatisfiedBy point.toVector

end LinearSystem

namespace LinearEquation

/-- Whether a point of unknown sort lies on the hyperplane. -/
def containsValue (e : LinearEquation Float) (point : Value) : Except Refusal Bool := do
  let point ← point.toCoordinates "point"
  e.contains point.toVector

end LinearEquation

namespace Value

/-- A general solution of the given parts, which have to agree in number. -/
def ofParts (dimensions basePoint directions freeVariables : Value) : Except Refusal Value := do
  let directionCount ← directions.count
  let freeCount ← freeVariables.count
  if directionCount ≠ freeCount then throw (.fault (.freeVariableCount directionCount freeCount))
  return parametrization dimensions basePoint directions freeVariables

/-- A walk along the directions whose parameters are read one by one. -/
def walkValues : List Float → List Value → List Value → Except Refusal (List Float)
  | x, parameter :: parameters, direction :: directions => do
    let t ← parameter.toFloat
    walkValues (← Parametrization.advance x t (← direction.toVec)) parameters directions
  | x, _, _ => .ok x

/-- The point of a general solution at parameters of unknown sort. -/
def pointAt (basePoint directions : Value) (parameters : List Value) :
    Except Refusal (Vec Float) := do
  let expected ← directions.count
  if parameters.length ≠ expected then
    throw (.fault (.parameterCount expected parameters.length))
  let base ← basePoint.toVec
  Parametrization.columnOf (← walkValues base.toList parameters (← directions.items)) base.tolerance

end Value

end LinearSystems
