import LinearSystems.Value.Pivots

/-!
# Elimination under any tolerance

The passes of `LinearSystems.Elimination.Reduction` where nothing is known of the tolerance.  The row
operations are the same; but each test compares entries with the tolerance as values do, so it may fail,
and then the elimination fails with it.

A tolerance that is an array is compared with a whole column or row at once.  The first answer that holds
counts as the place of the pivot, and it may lie outside of the table.
-/

namespace LinearSystems

/-! ## Tests -/

namespace Value

/-- How the magnitudes of the entries of an array compare with a tolerance. -/
def compareMagnitudes (c : Comparison) (t : Tensor Float) (tolerance : Value) :
    Except ArgumentFault Value :=
  (array (t.map Float.abs)).compare c tolerance

/-- The answers of such a comparison, in row-major order. -/
def marks (c : Comparison) (t : Tensor Float) (tolerance : Value) :
    Except ArgumentFault (List Bool) := do
  return (← compareMagnitudes c t tolerance).elements.map isMarked

/-- Every entry of an array is within tolerance of zero. -/
def areSmall (t : Tensor Float) (tolerance : Value) : Except ArgumentFault Bool := do
  return (← marks .less t tolerance).all id

/-- An entry of an array counts as zero. -/
def isNegligible (tolerance : Value) (x : Float) : Except ArgumentFault Bool := do
  (← (wordFloat x).isZero tolerance).isTruthy

/-- Sets the entries of an array that are within tolerance of zero to zero. -/
def cleaned (t : Tensor Float) (tolerance : Value) : Except ArgumentFault (Tensor Float) := do
  t.storeAt (← compareMagnitudes .less t tolerance) ⟨[], [0]⟩

end Value

variable {m d : Nat}

namespace Tableau

open Value

/-! ## Steps -/

/-- Eliminates a column from the target row by adding a multiple of the source row. -/
def eliminateInUnder (tolerance : Value) (column : Fin d) (source : Fin m) (t : Tableau Float m d)
    (target : Fin m) : Except ArgumentFault (Tableau Float m d) := do
  let entry := t.entry target column
  let pivot := t.entry source column
  if ← isNegligible tolerance entry then return t
  if ← isNegligible tolerance pivot then return t
  return (t.addMultiple (-entry / pivot) source target).setEntry target column 0

/-- Eliminates a column from every row below. -/
def eliminateBelowUnder (tolerance : Value) (row : Fin m) (column : Fin d) (t : Tableau Float m d) :
    Except ArgumentFault (Tableau Float m d) :=
  ((List.finRange m).filter (row < ·)).foldlM (eliminateInUnder tolerance column row) t

/-- Eliminates a column from every row above, the nearest first. -/
def eliminateAboveUnder (tolerance : Value) (row : Fin m) (column : Fin d) (t : Tableau Float m d) :
    Except ArgumentFault (Tableau Float m d) :=
  ((List.finRange m).reverse.filter (· < row)).foldlM (eliminateInUnder tolerance column row) t

/-- Scales a row so that its pivot becomes exactly one. -/
def scalePivotToOneUnder (tolerance : Value) (row : Fin m) (column : Fin d)
    (t : Tableau Float m d) : Except ArgumentFault (Tableau Float m d) := do
  let pivot := t.entry row column
  if ← isNegligible tolerance pivot then
    throw (.vanishedPivot row column pivot tolerance (← tolerance.shortText))
  return (t.scale (1 / pivot) row).setEntry row column 1

/-- The pivot for the rows from `row` on in the listed columns. -/
def findPivotIn (tolerance : Value) (t : Tableau Float m d) (row : Nat) :
    List (Fin d) → Except ArgumentFault (Option (Nat × Fin d))
  | [] => .ok .none
  | column :: columns => do
    match ← leadingAt ((t.rows.column column).toList.drop row) tolerance with
    | some k => return some (row + k, column)
    | .none => t.findPivotIn tolerance row columns

/-- No row reads `0 = k` with a significant `k`. -/
def isConsistentUnder (tolerance : Value) (t : Tableau Float m d) : Except ArgumentFault Bool := do
  let small ← marks .less (.ofGrid t.rows) tolerance
  let significant ← marks .atLeast (.ofVector t.offsets) tolerance
  return !(List.range m).any fun i => (partAt [d] small i).all id && significant.getD i false

end Tableau

/-! ## Triangular pass -/

namespace Sweep

open Value

/-- Brings the pivot for `row` into place and eliminates its column below. -/
def stepUnder (tolerance : Value) (s : Sweep Float m d) (row : Fin m) :
    Except ArgumentFault (Sweep Float m d) := do
  let columns := (List.finRange d).filter fun j => s.next ≤ j.val
  match ← s.tableau.findPivotIn tolerance row columns with
  | .none => return ⟨s.tableau.clearBlock row s.next d, d, s.smallPivots⟩
  | some (pivotRow, column) =>
    if h : pivotRow < m then
      let placed := (s.tableau.clearBlock row s.next column).swap row ⟨pivotRow, h⟩
      let value := placed.entry row column
      let near ← (float Tolerance.nearZeroFactor).combine .multiply tolerance
      let isNear ← (wordFloat value.abs).holds .less near
      return ⟨← placed.eliminateBelowUnder tolerance row column, column + 1,
        if isNear then s.smallPivots ++ [((row, column), value)] else s.smallPivots⟩
    else throw (.array (.outOfBounds pivotRow 0 m))

/-- The triangular pass, row after row. -/
def runUnder (tolerance : Value) (t : Tableau Float m d) : Except ArgumentFault (Sweep Float m d) :=
  (List.finRange m).foldlM (stepUnder tolerance) ⟨t, 0, []⟩

end Sweep

/-! ## Reduced pass -/

namespace Tableau

open Value

/-- What the reduced pass does at one pivot. -/
def reduceAtUnder (tolerance : Value) (t : Tableau Float m d) (p : Pivot m d) :
    Except ArgumentFault (Tableau Float m d) := do
  (← t.eliminateAboveUnder tolerance p.1 p.2).scalePivotToOneUnder tolerance p.1 p.2

/-- Walks the listed rows from a column on and reduces at each pivot. -/
def reduceRowsUnder (tolerance : Value) :
    List (Fin m) → Nat → Tableau Float m d →
      Except ArgumentFault (Tableau Float m d × List (Pivot m d))
  | [], _, t => .ok (t, [])
  | row :: rows, start, t => do
    if d ≤ start then return (t, [])
    match ← leadingAt ((t.rows.row row).toList.drop start) tolerance with
    | .none => reduceRowsUnder tolerance rows start t
    | some k =>
      if h : start + k < d then
        let p : Pivot m d := (row, ⟨start + k, h⟩)
        let (last, found) ← reduceRowsUnder tolerance rows (start + k + 1)
          (← t.reduceAtUnder tolerance p)
        return (last, p :: found)
      else throw (.array (.outOfBounds (start + k : Nat) 1 d))

/-- The reduced pass: the tableau that it leaves and the pivots that it met. -/
def reduceUnder (tolerance : Value) (t : Tableau Float m d) :
    Except ArgumentFault (Tableau Float m d × List (Pivot m d)) := do
  let (reduced, pivots) ← reduceRowsUnder tolerance (List.finRange m) 0 t
  let rows ← cleaned (.ofGrid reduced.rows) tolerance
  let offsets ← cleaned (.ofVector reduced.offsets) tolerance
  return (⟨rows.toGrid m d, offsets.toVectorOf m⟩, pivots)

/-- The verdict on a reduced tableau with this many pivots. -/
def classifyUnder (tolerance : Value) (t : Tableau Float m d) (pivotCount : Nat) :
    Except ArgumentFault SolutionKind := do
  if !(← t.isConsistentUnder tolerance) then return .inconsistent
  return if pivotCount < d then .infinite else .unique

/-! ## Reports -/

/-- Reduces and classifies.  What the answer holds is made anew, with the float that the tolerance is
read as. -/
def solveUnder (tolerance : Value) (t : Tableau Float m d) : Except Refusal (Report Float m d) := do
  let swept ← Sweep.runUnder tolerance t
  let (done, pivots) ← swept.tableau.reduceUnder tolerance
  let kind ← done.classifyUnder tolerance pivots.length
  let solution ← match kind with
    | .unique => some <$> Vec.ofOriented (pivotPoint pivots done.offsets) .column tolerance
    | _ => pure .none
  let parametrization ← match kind with
    | .infinite =>
      let rows := array (.ofGrid done.rows)
      let offsets := array (.ofVector done.offsets)
      some <$> Parametrization.ofReducedValues rows offsets tolerance
    | _ => pure .none
  return ⟨kind, done.rows, done.offsets, pivots, solution, parametrization, swept.smallPivots⟩

end Tableau

namespace AnySystem

/-- The report on a system under any tolerance. -/
def report (s : AnySystem) : Except Refusal (Report Float s.equationCount s.dimensions) :=
  match s.tolerance with
  | .float τ => do (Elimination.ofSystem (s.mapTolerance fun _ => τ)).solve.1
  | τ => (⟨s.coefficients, s.offsets⟩ : Tableau Float _ _).solveUnder τ

/-- The report together with the text of the tolerance, which is only written where a small pivot is to
be told. -/
def reportWithText (s : AnySystem) :
    Except Refusal (Report Float s.equationCount s.dimensions × String) := do
  let r ← s.report
  if r.smallPivots.isEmpty then return (r, "")
  return (r, ← s.tolerance.shortText)

end AnySystem

end LinearSystems
