import LinearSystems.Mat

/-!
# Vectors

A vector is a list of components together with an orientation: written as a matrix it is one column
or one row.  A vector of one component is the same matrix either way and counts as a column.

Lengths, angles, relations, decomposition and three-dimensional geometry are defined on components,
so orientation matters only where extents are compared (`Vec.add`, `Vec.subtract`, `Vec.isEqual`).
-/

namespace LinearSystems

variable {K : Type}

inductive Orientation where
  | column
  | row
deriving DecidableEq

def Orientation.flip : Orientation → Orientation
  | column => row
  | row => column

/-- As with matrices, `T` is the sort of the tolerance. -/
structure Vec (K : Type) (T : Type := K) where
  dimensions : Nat
  components : Vector K dimensions
  orientation : Orientation
  tolerance : T

namespace Vec

/-- The vector under another tolerance. -/
def under {T S : Type} (tolerance : S) (v : Vec K T) : Vec K S :=
  ⟨v.dimensions, v.components, v.orientation, tolerance⟩

/-- Rows and columns of the vector as a matrix. -/
def extents (v : Vec K) : Extents :=
  match v.orientation with
  | .column => (v.dimensions, 1)
  | .row => (1, v.dimensions)

theorem dimensions_eq_of_extents_eq {v w : Vec K} (h : v.extents = w.extents) :
    v.dimensions = w.dimensions := by
  unfold extents at h
  split at h <;> split at h <;> simp at h <;> omega

/-- The vector is one row of several components. -/
def isHorizontal (v : Vec K) : Bool := v.orientation == .row && decide (1 < v.dimensions)

/-- The component at `i`, counted from zero. -/
def component (v : Vec K) (i : Fin v.dimensions) : K := v.components.get i

def toList (v : Vec K) : List K := v.components.toList

/-- The vector as a matrix of one column or one row. -/
def toMat (v : Vec K) : Mat K :=
  match v.orientation with
  | .column => ⟨v.dimensions, 1, Grid.ofFn fun i _ => v.component i, v.tolerance⟩
  | .row => ⟨1, v.dimensions, Grid.ofFn fun _ j => v.component j, v.tolerance⟩

variable [Scalar K]

/-- What every constructor demands of the components: at least one, and none undefined or
infinite. -/
def requireComponents {n : Nat} (components : Vector K n) (orientation : Orientation) :
    Except (Fault K) Unit := do
  let extents := (⟨n, components, orientation, 0⟩ : Vec K).extents
  requireNonempty "elements" [extents.1, extents.2]
  requireFinite "elements" components.toList

/-- The vector with these components and this tolerance, if both are admissible. -/
def ofComponents {n : Nat} (components : Vector K n) (tolerance : K)
    (orientation : Orientation := .column) : Except (Fault K) (Vec K) := do
  requireComponents components orientation
  return ⟨n, components, orientation, ← Tolerance.require tolerance⟩

/-- The column that points from the first point to the second. -/
def ofPoints {n k : Nat} (p : Vector K n) (q : Vector K k) (tolerance : K) :
    Except (Fault K) (Vec K) :=
  if h : n = k then ofComponents (Vector.ofFn fun i => q.get (i.cast h) - p.get i) tolerance
  else .error (.pointSizes n k)

/-! ## Operations shared with matrices -/

def scale (scalar : K) (v : Vec K) : Except (Fault K) (Vec K) :=
  ofComponents (v.components.map (· * scalar)) v.tolerance v.orientation

/-- Combines components at the same place of two vectors with equal extents. -/
def zipWith (operation : Operation) (f : K → K → K) (v w : Vec K) : Except (Fault K) (Vec K) :=
  if h : v.extents = w.extents then
    ofComponents
      (Vector.ofFn fun i => f (v.component i) (w.component (i.cast (dimensions_eq_of_extents_eq h))))
      v.tolerance v.orientation
  else .error (.unequalExtents .vector operation v.extents w.extents)

def add (v w : Vec K) : Except (Fault K) (Vec K) := zipWith .add (· + ·) v w

def subtract (v w : Vec K) : Except (Fault K) (Vec K) := zipWith .subtract (· - ·) v w

def transpose (v : Vec K) : Except (Fault K) (Vec K) :=
  ofComponents v.components v.tolerance v.orientation.flip

/-- Every component is within tolerance of zero. -/
def isZero (v : Vec K) : Bool := v.components.all (Scalar.isSmall v.tolerance)

omit [Scalar K] in
def isSameSize (v w : Vec K) : Bool := v.extents == w.extents

/-- The extents agree, and components at the same place differ by less than the tolerance. -/
def isEqual (v w : Vec K) : Bool :=
  if h : v.extents = w.extents then
    (List.finRange v.dimensions).all fun i =>
      Scalar.isSmall v.tolerance
        (v.component i - w.component (i.cast (dimensions_eq_of_extents_eq h)))
  else false

/-- The component at an index that is first checked. -/
def element (v : Vec K) (position : Int) : Except (Fault K) K := do
  return v.component (← requireIndex "position" position v.dimensions)

/-- The component at `position` is within tolerance of the value. -/
def equalsValue (v : Vec K) (value : K) (position : Int) : Except (Fault K) Bool := do
  return Scalar.isClose (← v.element position) value v.tolerance

/-! ## Pairs of vectors with the same number of components -/

/-- Hands over the components of both vectors over one index type. -/
def paired {α : Type} (operation : Operation) (v w : Vec K)
    (use : {n : Nat} → (Fin n → K) → (Fin n → K) → α) : Except (Fault K) α :=
  if h : v.dimensions = w.dimensions then
    .ok (use v.component fun i => w.component (i.cast h))
  else .error (.unequalDimensions operation v.extents w.extents)

/-- The sum of the products of components, whatever the orientations. -/
def dot (v w : Vec K) : Except (Fault K) K := paired .dot v w fun a b => sumOfProducts a b

/-- The dot product is within tolerance of zero. -/
def isOrthogonal (v w : Vec K) : Except (Fault K) Bool := do
  return Scalar.isSmall v.tolerance (← v.dot w)

/-- Refuses vectors that are zero within their own tolerance. -/
def requireNonzero (operation : Operation) (vectors : List (Vec K)) : Except (Fault K) Unit :=
  if vectors.any isZero then .error (.zeroVector operation) else .ok ()

/-- Refuses a zero divisor; otherwise the quotient. -/
def quotient (x y : K) : Except (Fault K) K :=
  if y == 0 then .error .zeroDivision else .ok (x / y)

/-! ## Three dimensions -/

omit [Scalar K] in
def isThreeDimensional (v : Vec K) : Bool := v.dimensions == 3

/-- The vector perpendicular to both, as a column. -/
def cross (v w : Vec K) (operation : Operation := .cross) : Except (Fault K) (Vec K) :=
  if h : v.dimensions = 3 ∧ w.dimensions = 3 then
    let a (i : Fin 3) := v.component (i.cast h.1.symm)
    let b (i : Fin 3) := w.component (i.cast h.2.symm)
    ofComponents
      #v[a 1 * b 2 - a 2 * b 1, a 2 * b 0 - a 0 * b 2, a 0 * b 1 - a 1 * b 0] v.tolerance
  else .error (.notThreeDimensional operation)

end Vec

/-! ## Lengths and decomposition -/

namespace Vec

variable [RootedScalar K]

/-- The square root of the sum of squares, without scaling. -/
def magnitude (v : Vec K) : K := RootedScalar.sqrt (sumOfProducts v.component v.component)

/-- The vector of length one in the same direction. -/
def normalize (v : Vec K) : Except (Fault K) (Vec K) := do
  requireNonzero .normalize [v]
  scale (← quotient 1 v.magnitude) v

/-- One vector is a multiple of the other: after division by their lengths they agree within
tolerance up to sign.  A zero vector is parallel to every vector. -/
def isParallel (v w : Vec K) : Except (Fault K) Bool :=
  paired .isParallel v w fun {n} a b =>
    if v.isZero || w.isZero then true
    else
      let near (f : K → K → K) : Bool := (List.finRange n).all fun i =>
        Scalar.isSmall v.tolerance (f (a i / v.magnitude) (b i / w.magnitude))
      near (· - ·) || near (· + ·)

/-- The part of the vector along `onto`, in the vector's own orientation. -/
def projection (v onto : Vec K) : Except (Fault K) (Vec K) := do
  let _ ← paired .projection v onto fun _ _ => ()
  requireNonzero .projection [v, onto]
  let unit ← onto.normalize
  -- The result lies like the vector that is projected, whatever the direction of `onto`.
  let along ← ofComponents unit.components v.tolerance v.orientation
  scale (← v.dot unit) along

def orthogonalComponent (v onto : Vec K) : Except (Fault K) (Vec K) := do
  v.subtract (← v.projection onto)

def parallelComponent (v onto : Vec K) : Except (Fault K) (Vec K) := do
  v.subtract (← v.orthogonalComponent onto)

def areaOfParallelogram (v w : Vec K) (operation : Operation := .areaOfParallelogram) :
    Except (Fault K) K := do
  return (← v.cross w operation).magnitude

def areaOfTriangle (v w : Vec K) : Except (Fault K) K := do
  return 0.5 * (← v.areaOfParallelogram w .areaOfTriangle)

end Vec

/-! ## Angles -/

namespace Vec

variable [AngularScalar K]

/-- The nearest value between minus one and one; an undefined value counts as minus one. -/
def clampCosine (c : K) : K :=
  -- An undefined value fails this comparison, and so it is replaced.
  let raised := if -1 < c then c else -1
  if raised < 1 then raised else 1

/-- The angle between two vectors, in radians or in degrees. -/
def angle (v w : Vec K) (degrees : Bool) : Except (Fault K) K := do
  let _ ← paired .angle v w fun _ _ => ()
  requireNonzero .angle [v, w]
  let cosine ← quotient (← v.dot w) (v.magnitude * w.magnitude)
  let theta := AngularScalar.acos (clampCosine cosine)
  return if degrees then theta * AngularScalar.degreesPerRadian else theta

end Vec

/-! ## Rows and columns of a matrix -/

namespace Mat

/-- The matrix as a vector, when it is one column or one row. -/
def toVec? (a : Mat K) : Option (Vec K) :=
  if h : a.columns = 1 then
    some ⟨a.rows, a.elements.column (Fin.cast h.symm 0), .column, a.tolerance⟩
  else if h : a.rows = 1 then
    some ⟨a.columns, a.elements.row (Fin.cast h.symm 0), .row, a.tolerance⟩
  else none

variable [Scalar K]

/-- A row as a horizontal vector. -/
def getRow (a : Mat K) (index : Int) : Except (Fault K) (Vec K) := do
  let i ← requireIndex "row" index a.rows
  Vec.ofComponents (a.elements.row i) a.tolerance .row

/-- A column as a vertical vector. -/
def getColumn (a : Mat K) (index : Int) : Except (Fault K) (Vec K) := do
  let j ← requireIndex "column" index a.columns
  Vec.ofComponents (a.elements.column j) a.tolerance .column

end Mat

end LinearSystems
