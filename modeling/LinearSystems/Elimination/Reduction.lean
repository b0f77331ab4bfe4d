import LinearSystems.Elimination.Tableau
import LinearSystems.LinearSystem
import LinearSystems.Parametrization

/-!
# Reduction

Gauss–Jordan elimination of a system and the classification of its solution set, in two passes.

1. *Triangular pass.*  For each row in turn, take the leftmost column at or after the current one in
   which this row or a lower one has a significant entry, and the first such row.  The columns that
   were skipped are set to zero from this row down, so that later operations cannot raise their
   residue above the tolerance.  The pivot row is swapped into place and the column eliminated below.
2. *Reduced pass.*  Read the pivots row by row; at each one eliminate its column from the rows above
   and scale the row so that the pivot is one.  At the end what is left below the tolerance becomes
   zero.

A system whose reduced form has a row `0 = k` with a significant `k` is inconsistent; otherwise a
column without a pivot makes the solution set infinite, and a pivot in every column unique.

The pivot is the first candidate, not the largest: the choice is deterministic, and no claim about
numerical stability is made.
-/

namespace LinearSystems

variable {K : Type} {m d : Nat}

/-- What the set of solutions looks like. -/
inductive SolutionKind where
  | inconsistent
  | unique
  | infinite
deriving DecidableEq

/-! ## Triangular pass -/

/-- A triangular pass on its way: `next` is the first column that may still hold a pivot. -/
structure Sweep (K : Type) (m d : Nat) where
  tableau : Tableau K m d
  next : Nat
  smallPivots : List (Pivot m d × K)

namespace Sweep

variable [Scalar K]

/-- Brings the pivot for `row` into place and eliminates its column below.  When no pivot is left,
everything from here on is set to zero and no column remains. -/
def step (tolerance : K) (s : Sweep K m d) (row : Fin m) : Sweep K m d :=
  match s.tableau.findPivot tolerance row s.next with
  | none => ⟨s.tableau.clearBlock row s.next d, d, s.smallPivots⟩
  | some (pivotRow, column) =>
    -- What the skipped columns still hold below `row` is residue under the tolerance.
    let placed := (s.tableau.clearBlock row s.next column).swap row pivotRow
    let value := placed.entry row column
    let isNear : Bool := Scalar.abs value < Tolerance.nearZeroFactor * tolerance
    ⟨placed.eliminateBelow tolerance row column, column + 1,
      if isNear then s.smallPivots ++ [((row, column), value)] else s.smallPivots⟩

/-- The triangular pass, row after row. -/
def run (tolerance : K) (t : Tableau K m d) : Sweep K m d :=
  (List.finRange m).foldl (step tolerance) ⟨t, 0, []⟩

end Sweep

/-! ## Reduced pass -/

namespace Tableau

variable [Scalar K]

/-- What the reduced pass does at one pivot. -/
def reduceAt (tolerance : K) (t : Tableau K m d) (p : Pivot m d) :
    Except (Fault K) (Tableau K m d) :=
  (t.eliminateAbove tolerance p.1 p.2).scalePivotToOne tolerance p.1 p.2

/-- The reduced pass: the tableau that it leaves and the pivots that it met. -/
def reduce (tolerance : K) (t : Tableau K m d) :
    Except (Fault K) (Tableau K m d × List (Pivot m d)) := do
  let (reduced, pivots) ←
    Grid.scan tolerance Tableau.rows (reduceAt tolerance) (List.finRange m) 0 t
  return (reduced.clean tolerance, pivots)

/-- The verdict on a reduced tableau with this many pivots. -/
def classify (tolerance : K) (t : Tableau K m d) (pivotCount : Nat) : SolutionKind :=
  if !t.isConsistent tolerance then .inconsistent
  else if pivotCount < d then .infinite
  else .unique

/-- The solution of a reduced tableau in which every column has a pivot. -/
def uniqueSolution (tolerance : K) (t : Tableau K m d) (pivots : List (Pivot m d)) :
    Except (Fault K) (Vec K) :=
  Vec.ofComponents (pivotPoint pivots t.offsets) tolerance

end Tableau

/-! ## Eliminations -/

/-- The outcome of one elimination.  A consistent system has either a solution or a
parametrization, an inconsistent one neither. -/
structure Report (K : Type) (m d : Nat) where
  kind : SolutionKind
  rows : Grid K m d
  offsets : Vector K m
  pivots : List (Pivot m d)
  solution : Option (Vec K)
  parametrization : Option (Parametrization K)
  smallPivots : List (Pivot m d × K)

namespace Report

def rank (r : Report K m d) : Nat := r.pivots.length

end Report

/-- An elimination under way: the tableau as far as it is reduced, the pivots noticed as small, and
the report once there is one. -/
structure Elimination (K : Type) (m d : Nat) where
  tableau : Tableau K m d
  tolerance : K
  smallPivots : List (Pivot m d × K)
  report : Option (Report K m d)

namespace Elimination

def ofSystem (s : LinearSystem K) : Elimination K s.equationCount s.dimensions :=
  ⟨⟨s.coefficients, s.offsets⟩, s.tolerance, [], none⟩

variable [Scalar K]

/-- Runs the triangular pass on the tableau as it stands. -/
def triangular (e : Elimination K m d) : Elimination K m d :=
  let swept := Sweep.run e.tolerance e.tableau
  { e with tableau := swept.tableau, smallPivots := e.smallPivots ++ swept.smallPivots }

/-- Runs the reduced pass on the tableau as it stands. -/
def reduced (e : Elimination K m d) :
    Except (Fault K) (Elimination K m d × List (Pivot m d)) := do
  let (tableau, pivots) ← e.tableau.reduce e.tolerance
  return ({ e with tableau := tableau }, pivots)

/-- The report on an elimination whose tableau is reduced with these pivots. -/
def conclude (e : Elimination K m d) (pivots : List (Pivot m d)) :
    Except (Fault K) (Report K m d) := do
  let kind := e.tableau.classify e.tolerance pivots.length
  let solution ← match kind with
    | .unique => some <$> e.tableau.uniqueSolution e.tolerance pivots
    | _ => pure none
  let parametrization ← match kind with
    | .infinite =>
      some <$> Parametrization.ofReduced e.tableau.rows e.tableau.offsets e.tolerance
    | _ => pure none
  return ⟨kind, e.tableau.rows, e.tableau.offsets, pivots, solution, parametrization,
    e.smallPivots⟩

/-- Reduces and classifies.  The tableau is reduced in place, so a second call answers with the
report of the first; a call that failed leaves the tableau as far as it came. -/
def solve (e : Elimination K m d) :
    Except (Fault K) (Report K m d) × Elimination K m d :=
  match e.report with
  | some report => (.ok report, e)
  | none =>
    match e.triangular.reduced with
    -- No report is kept of a call that fails, so the next one goes on from where it stopped.
    | .error fault => (.error fault, e.triangular)
    | .ok (done, pivots) =>
      match done.conclude pivots with
      | .error fault => (.error fault, done)
      | .ok report => (.ok report, { done with report := some report })

end Elimination

end LinearSystems
