import LinearSystems.Grid
import LinearSystems.Tolerance

/-!
# Matrices

A dense matrix of fixed extents that carries the tolerance of every comparison made on it.
Arithmetic returns new matrices with the tolerance of the left operand, and refuses a result with
undefined or infinite entries.
-/

namespace LinearSystems

variable {K : Type}

/-- The sum of `u k * w k` over all `k`, added from the left onto zero. -/
def sumOfProducts [Scalar K] {n : Nat} (u w : Fin n → K) : K :=
  (List.finRange n).foldl (fun sum k => sum + u k * w k) 0

/-- The tolerance is an entry like the others, unless another sort `T` of tolerances is named. -/
structure Mat (K : Type) (T : Type := K) where
  rows : Nat
  columns : Nat
  elements : Grid K rows columns
  tolerance : T

namespace Mat

/-- The matrix under another tolerance. -/
def under {T S : Type} (tolerance : S) (a : Mat K T) : Mat K S :=
  ⟨a.rows, a.columns, a.elements, tolerance⟩

def extents (a : Mat K) : Extents := (a.rows, a.columns)

theorem extents_eq_iff {a b : Mat K} :
    a.extents = b.extents ↔ a.rows = b.rows ∧ a.columns = b.columns := by
  simp [extents]

variable [Scalar K]

/-- What every constructor demands of the entries: at least one, and none undefined or infinite. -/
def requireElements {m d : Nat} (elements : Grid K m d) : Except (Fault K) Unit := do
  requireNonempty "elements" [m, d]
  requireFinite "elements" elements.toList

/-- The matrix with these entries and this tolerance, if both are admissible. -/
def ofGrid {m d : Nat} (elements : Grid K m d) (tolerance : K) : Except (Fault K) (Mat K) := do
  requireElements elements
  return ⟨m, d, elements, ← Tolerance.require tolerance⟩

def scale (scalar : K) (a : Mat K) : Except (Fault K) (Mat K) :=
  ofGrid (a.elements.map (· * scalar)) a.tolerance

/-- Combines entries at the same place; `operation` names the caller when the extents differ. -/
def zipWith (operation : Operation) (f : K → K → K) (a b : Mat K) : Except (Fault K) (Mat K) :=
  if h : a.extents = b.extents then
    ofGrid
      (Grid.ofFn fun i j => f (a.elements.entry i j)
        (b.elements.entry (i.cast (extents_eq_iff.1 h).1) (j.cast (extents_eq_iff.1 h).2)))
      a.tolerance
  else .error (.unequalExtents .matrix operation a.extents b.extents)

def add (a b : Mat K) : Except (Fault K) (Mat K) := zipWith .add (· + ·) a b

def subtract (a b : Mat K) : Except (Fault K) (Mat K) := zipWith .subtract (· - ·) a b

/-- The product of an `m × n` and an `n × p` matrix; `family` is what the left operand is called
when the inner extents differ. -/
def multiply (a b : Mat K) (family : Family := .matrix) : Except (Fault K) (Mat K) :=
  if h : a.columns = b.rows then
    ofGrid
      (Grid.ofFn fun i j =>
        sumOfProducts (fun k => a.elements.entry i k) fun k => b.elements.entry (k.cast h) j)
      a.tolerance
  else .error (.innerExtents family a.extents b.extents)

def transpose (a : Mat K) : Except (Fault K) (Mat K) := ofGrid a.elements.transpose a.tolerance

/-- Every entry is within tolerance of zero. -/
def isZero (a : Mat K) : Bool := a.elements.all (Scalar.isSmall a.tolerance)

def isSameSize (a b : Mat K) : Bool := a.extents == b.extents

/-- The extents agree, and entries at the same place differ by less than the tolerance. -/
def isEqual (a b : Mat K) : Bool :=
  if h : a.extents = b.extents then
    (List.finRange a.rows).all fun i => (List.finRange a.columns).all fun j =>
      Scalar.isSmall a.tolerance (a.elements.entry i j -
        b.elements.entry (i.cast (extents_eq_iff.1 h).1) (j.cast (extents_eq_iff.1 h).2))
  else false

/-- The entry at `(i, j)` is within tolerance of the value. -/
def equalsValue (a : Mat K) (value : K) (i j : Int) : Except (Fault K) Bool := do
  let i ← requireIndex "i" i a.rows
  let j ← requireIndex "j" j a.columns
  return Scalar.isClose (a.elements.entry i j) value a.tolerance

end Mat

end LinearSystems
