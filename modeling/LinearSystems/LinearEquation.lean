import LinearSystems.Vec

/-!
# Linear equations

The hyperplane `n · x = k`: a column of coefficients and an offset.  The tolerance of the normal
governs every comparison that the equation makes.
-/

namespace LinearSystems

variable {K : Type}

/-- The constructor that an equation was written with; only its name in texts depends on it. -/
inductive EquationForm where
  | general
  /-- `a x + b y = k` -/
  | line
  /-- `a x + b y + c z = k` -/
  | plane
deriving DecidableEq

structure LinearEquation (K : Type) (T : Type := K) where
  normal : Vec K T
  offset : K
  form : EquationForm

namespace LinearEquation

section Parts

variable {T S : Type}

def dimensions (e : LinearEquation K T) : Nat := e.normal.dimensions

def tolerance (e : LinearEquation K T) : T := e.normal.tolerance

/-- The equation under another tolerance. -/
def under (tolerance : S) (e : LinearEquation K T) : LinearEquation K S :=
  ⟨e.normal.under tolerance, e.offset, e.form⟩

end Parts

variable [Scalar K]

/-- The equation with this normal and offset.  A horizontal normal is stood upright. -/
def ofNormal (normal : Vec K) (offset : K) (form : EquationForm := .general) :
    Except (Fault K) (LinearEquation K) := do
  if !Scalar.isFinite offset then throw (.nonFiniteOffset offset)
  let normal ← if normal.isHorizontal then normal.transpose else pure normal
  return ⟨normal, offset, form⟩

/-- The first coordinate whose coefficient is not negligible. -/
def leading? (e : LinearEquation K) : Option (Fin e.dimensions) :=
  (List.finRange e.dimensions).find? fun i =>
    Scalar.isSignificant e.tolerance (e.normal.component i)

/-- A point on the hyperplane: all coordinates are zero but the leading one, which is the offset
divided by its coefficient. -/
def basePoint (e : LinearEquation K) : Except (Fault K) (Vec K) :=
  match e.leading? with
  | none => .error .zeroNormal
  | some i =>
    Vec.ofComponents (Vector.ofFn fun j => if j = i then e.offset / e.normal.component i else 0)
      e.tolerance

/-- `n · point` equals the offset within tolerance. -/
def contains (e : LinearEquation K) {n : Nat} (point : Vector K n) : Except (Fault K) Bool :=
  if h : e.dimensions = n then
    .ok (Scalar.isZero (sumOfProducts e.normal.component (fun i => point.get (i.cast h)) - e.offset)
      e.tolerance)
  else .error (.pointCoordinates e.dimensions n)

end LinearEquation

/-! ## Relations between hyperplanes -/

namespace LinearEquation

variable [RootedScalar K]

def isParallel (e f : LinearEquation K) : Except (Fault K) Bool := e.normal.isParallel f.normal

/-- Both equations describe the same hyperplane.  Parallel hyperplanes coincide when the vector
between a point of each is orthogonal to the normal; equations without a direction coincide when
both offsets are zero within tolerance or both are not. -/
def isEqual (e f : LinearEquation K) : Except (Fault K) Bool := do
  if e.normal.isZero || f.normal.isZero then
    return e.normal.isZero && f.normal.isZero &&
      Scalar.isZero e.offset e.tolerance == Scalar.isZero f.offset e.tolerance
  if !(← e.isParallel f) then return false
  let p ← e.basePoint
  let q ← f.basePoint
  (← Vec.ofPoints p.components q.components e.tolerance).isOrthogonal e.normal

end LinearEquation

end LinearSystems
