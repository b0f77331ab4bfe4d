import LinearSystems.Value.Elimination
import LinearSystems.Value.Operands

/-!
# Objects under any tolerance

The operations of matrices, vectors, equations and systems where nothing is known of the tolerance that
they carry.  What looks at no tolerance is left to the typed operations, on the same parts under the
default one; here stand the operations that compare with a tolerance, and those that derive an object by
more than one step.

An object that is derived from another one resolves its tolerance anew (`Value.resolve`): so it carries the
float that the tolerance is read as, and there is no such object if the tolerance cannot be read.
-/

namespace LinearSystems

open Value

/-- Whether two truth values agree, or place by place which of several do. -/
def Value.agrees (a b : Value) : Except ArgumentFault Value := do
  if a.isMachine || b.isMachine then
    let x ← a.toBulk
    let y ← b.toBulk
    let same ← x.elements.zipWith isEqualPlain y.elements
    return (⟨.bool, same.map bool, false⟩ : Bulk).toValue
  else return bool (← a.isEqualTo b)

/-! ## Matrices -/

namespace AnyMat

def isZero (a : AnyMat) : Except ArgumentFault Bool := areSmall (.ofGrid a.elements) a.tolerance

/-- Equality with a value; only matrices of the same size are looked into. -/
def isEqualAt (a : AnyMat) (other : Value) : Except Refusal Bool := do
  let typed := a.under Tolerance.default
  if !(← typed.isSameSizeAs other.tame) then return false
  let b ← typed.operand .subtract other.tame
  let difference : Grid Float a.rows a.columns := Grid.ofFn fun i j =>
    a.elements.entry i j - ((Tensor.ofGrid b.elements).toGrid a.rows a.columns).entry i j
  areSmall (.ofGrid difference) a.tolerance

/-- The entry at a place of unknown sort is within tolerance of the value. -/
def equalsValueAt (a : AnyMat) (value i j : Value) : Except Refusal Value := do
  let i ← i.toFin "i" a.rows
  let j ← j.toFin "j" a.columns
  (float (a.elements.entry i j)).isClose value a.tolerance

end AnyMat

/-! ## Vectors -/

namespace AnyVec

/-- The vector as a matrix. -/
def toAnyMat (v : AnyVec) : AnyMat := v.bare.toMat.under v.tolerance

def isZero (v : AnyVec) : Except ArgumentFault Bool := v.toAnyMat.isZero

/-- Refuses vectors that are zero within their own tolerance.  What follows the first of them is not
looked at. -/
def requireNonzero (operation : Operation) : List AnyVec → Except Refusal Unit
  | [] => .ok ()
  | v :: rest => do
    if ← v.isZero then throw (.fault (.zeroVector operation))
    requireNonzero operation rest

/-- Refuses vectors of different dimensions, and zero vectors. -/
def requireDirections (operation : Operation) (v w : AnyVec) : Except Refusal Unit := do
  let _ ← Vec.paired operation v.bare w.bare fun _ _ => ()
  requireNonzero operation [v, w]

/-- The component at a place of unknown sort is within tolerance of the value. -/
def equalsValueAt (v : AnyVec) (value position : Value) : Except Refusal Value := do
  (float (← v.bare.elementAt position)).isClose value v.tolerance

/-- The vector of these components that comes of one with this tolerance. -/
def derived (tolerance : Value) (v : Vec Float) : Except Refusal AnyVec := do
  return v.under (← tolerance.resolve)

def scale (scalar : Float) (v : AnyVec) : Except Refusal AnyVec := do
  derived v.tolerance (← Vec.scale scalar v.bare)

def subtract (v w : AnyVec) : Except Refusal AnyVec := do
  derived v.tolerance (← v.bare.subtract w.bare)

/-- The vector of length one in the same direction. -/
def normalize (v : AnyVec) : Except Refusal AnyVec := do
  requireNonzero .normalize [v]
  v.scale (← Vec.quotient 1 v.bare.magnitude)

/-- The part of the vector along `onto`.  Its tolerance is resolved twice, once for the direction and once
for the multiple of it. -/
def projection (v onto : AnyVec) : Except Refusal AnyVec := do
  requireDirections .projection v onto
  let unit ← onto.normalize
  let along ← Vec.ofComponents unit.components Tolerance.default v.orientation
  (← derived v.tolerance along).scale (← v.bare.dot unit.bare)

def orthogonalComponent (v onto : AnyVec) : Except Refusal AnyVec := do
  v.subtract (← v.projection onto)

def parallelComponent (v onto : AnyVec) : Except Refusal AnyVec := do
  v.subtract (← v.orthogonalComponent onto)

/-- One vector is a multiple of the other.  A zero vector is parallel to every vector. -/
def isParallel (v w : AnyVec) : Except Refusal Bool := do
  let _ ← Vec.paired .isParallel v.bare w.bare fun _ _ => ()
  if ← v.isZero then return true
  if ← w.isZero then return true
  let x := v.components.toList.map (· / v.bare.magnitude)
  let y := w.components.toList.map (· / w.bare.magnitude)
  let near (f : Float → Float → Float) : Except ArgumentFault Bool :=
    areSmall ⟨[v.dimensions], List.zipWith f x y⟩ v.tolerance
  if ← near (· - ·) then return true
  near (· + ·)

/-- The dot product is within tolerance of zero. -/
def isOrthogonal (v : AnyVec) (w : Vec Float) : Except Refusal Value := do
  (float (← v.bare.dot w).abs).compare .less v.tolerance

/-- The other operand of a relation between directions.  What is no vector is refused after the zero test
of this one. -/
def directionOperand (v : AnyVec) (operation : Operation) (other : Value) : Except Refusal AnyVec := do
  match other.object? with
  | some (.vec w) => return w
  | _ =>
    let _ ← v.bare.paired? other.tame
    requireNonzero operation [v]
    (other.missing "is_zero" : Except SortFault AnyVec)

def isParallelAt (v : AnyVec) (other : Value) : Except Refusal Bool := do
  match other.object? with
  | some (.vec w) => v.isParallel w
  | _ =>
    let _ ← v.bare.paired? other.tame
    if ← v.isZero then return true
    (other.missing "is_zero" : Except SortFault Bool)

def isOrthogonalAt (v : AnyVec) (other : Value) : Except Refusal Value := do
  v.isOrthogonal (← v.bare.dotOperand other.tame)

/-- The angle, once neither vector is zero: under the tolerance zero no vector is, so the typed operation
does not test again. -/
def angleAt (v : AnyVec) (other degrees : Value) : Except Refusal Float := do
  let w ← v.directionOperand .angle other
  requireDirections .angle v w
  (v.under 0).angleAt (vec (w.under 0)) degrees

end AnyVec

/-! ## Equations -/

namespace AnyEquation

/-- The tolerance of an equation with this normal.  A horizontal normal is stood upright, which makes it
anew. -/
def toleranceOf (normal : AnyVec) : Except Refusal Value :=
  if normal.bare.isHorizontal then normal.tolerance.resolve else .ok normal.tolerance

/-- The equation with this normal and offset. -/
def ofNormal (normal : AnyVec) (offset : Float) : Except Refusal AnyEquation := do
  let e ← LinearEquation.ofNormal normal.bare offset
  return e.under (← toleranceOf normal)

/-- A point on the hyperplane. -/
def basePoint (e : AnyEquation) : Except Refusal AnyVec := do
  match ← leadingAt e.normal.components.toList e.tolerance with
  | .none => throw (.fault .zeroNormal)
  | some i =>
    if h : i < e.normal.dimensions then
      let x := e.offset / e.normal.components.get ⟨i, h⟩
      let point : Vector Float e.normal.dimensions := Vector.ofFn fun j => if j = i then x else 0
      AnyVec.derived e.tolerance (← Vec.ofComponents point Tolerance.default)
    else throw (.argument (.array (.outOfBounds i 0 e.normal.dimensions)))

/-- What is left of the offset at a point of unknown sort lies within tolerance of zero. -/
def containsValue (e : AnyEquation) (point : Value) : Except Refusal Value := do
  let point ← point.tame.toCoordinates "point"
  let x := point.toVector
  if h : e.normal.dimensions = point.entries.length then
    let sum := sumOfProducts e.normal.components.get fun i => x.get (i.cast h)
    (float (sum - e.offset)).isZero e.tolerance
  else throw (.fault (.pointCoordinates e.normal.dimensions point.entries.length))

def isParallel (e f : AnyEquation) : Except Refusal Bool := AnyVec.isParallel e.normal f.normal

/-- Both equations describe the same hyperplane. -/
def isEqual (e f : AnyEquation) : Except Refusal Value := do
  let isZero ← AnyVec.isZero e.normal
  let isOtherZero ← AnyVec.isZero f.normal
  if isZero || isOtherZero then
    if !(isZero && isOtherZero) then return bool false
    (← (float e.offset).isZero e.tolerance).agrees (← (float f.offset).isZero e.tolerance)
  else
    if !(← e.isParallel f) then return bool false
    let p ← e.basePoint
    let q ← f.basePoint
    let connecting ← Vec.ofPoints p.components q.components Tolerance.default
    (← AnyVec.derived e.tolerance connecting).isOrthogonal e.normal.bare

/-- The equation that is the other operand. -/
def operand (other : Value) : Except SortFault AnyEquation :=
  match other.object? with
  | some (.equation f) => .ok f
  | _ => other.missing "normal_vector"

end AnyEquation

/-! ## Systems -/

namespace AnySystem

/-- The values are one and the same: they compare equal, or both are undefined. -/
def sameTolerance (x y : Value) : Except ArgumentFault Bool := do
  if ← x.isEqualTo y then return true
  return (x.float?.any Float.isNaN) && (y.float?.any Float.isNaN)

/-- The tolerance that all equations share.  The tolerances are gathered in a set, so they have to be
values that can be keys. -/
def commonTolerance (first : AnyEquation) (rest : List AnyEquation) : Except Refusal Value := do
  let tolerances := (first :: rest).map LinearEquation.tolerance
  (requireHashes tolerances : Except SortFault Unit)
  let agree ← (rest.mapM fun e => sameTolerance first.tolerance e.tolerance :
    Except ArgumentFault (List Bool))
  if agree.all id then return first.tolerance
  let written ← (tolerances.mapM shortText : Except ArgumentFault (List String))
  throw (.argument (.unequalTolerances written))

/-- The tolerance of a system of these equations: one of its own if it is asked for, or the one that they
share. -/
def toleranceOf (equations : List AnyEquation) (tolerance : Value) : Except Refusal Value :=
  match equations, tolerance with
  | first :: rest, .none => commonTolerance first rest
  | _, tolerance => tolerance.resolve

/-- The system of a list of equations.  The dimensions are looked at before the tolerance. -/
def ofEquations (equations : List AnyEquation) (tolerance : Value) : Except Refusal AnySystem := do
  let typed := equations.map (LinearEquation.mapTolerance fun _ => Tolerance.default)
  let s ← LinearSystem.ofEquations typed (some Tolerance.default)
  let shared ← toleranceOf equations tolerance
  return { s.mapTolerance fun _ => shared with equations }

/-- The system of a coefficient array and offsets.  Its equations are made under the tolerance that it has
resolved already. -/
def ofArrayValues (coefficients offsets tolerance : Value) : Except Refusal AnySystem := do
  let s ← LinearSystem.ofArrayValues coefficients offsets .none
  let shared ← tolerance.resolve
  let own ← shared.resolve
  return { s.mapTolerance fun _ => shared with
    equations := s.equations.map (LinearEquation.mapTolerance fun _ => own) }

/-- The equations among the items of a sequence, counted from `position`; every item has to be one. -/
def toEquations : Nat → List Value → Except ArgumentFault (List AnyEquation)
  | _, [] => .ok []
  | position, v :: rest =>
    match v.object? with
    | some (.equation e) => do return e :: (← toEquations (position + 1) rest)
    | _ => .error (.notAnEquation position v.typeName)

def ofEquationValues (equations tolerance : Value) : Except Refusal AnySystem := do
  ofEquations (← toEquations 0 (← equations.items)) tolerance

/-- A system, or a sequence of equations, under a tolerance of its own if one is given. -/
def ofValue (equations tolerance : Value) : Except Refusal AnySystem :=
  match equations.object?, tolerance with
  | some (.system s), .none => .ok s
  | some (.system s), tolerance => ofEquations s.equations tolerance
  | some (.equation _), _ => .error (.argument .singleEquation)
  | _, tolerance => ofEquationValues equations tolerance

/-- Every equation holds at a point of unknown sort. -/
def isSatisfiedByValue (s : AnySystem) (x : Value) : Except Refusal Bool := do
  let typed := s.mapTolerance fun _ => Tolerance.default
  areSmall (← typed.residualsAt x.tame) s.tolerance

end AnySystem

end LinearSystems
