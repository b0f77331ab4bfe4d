import LinearSystems.Grid
import LinearSystems.Scalar

/-!
# Pivots

The pivots of a table in echelon form, read row by row: in each row the first significant entry
right of the previous pivot's column.  A row without one is passed over, and the next row starts at
the same column, so pivots strictly increase in both coordinates.

`Grid.scan` is the same walk with an action at each pivot that may change the table before the walk
goes on; the rows below are read as the action left them.  Reduction and parametrization share it.
-/

namespace LinearSystems

variable {K : Type} [Scalar K] {m d : Nat}

/-- A row and the column of its pivot. -/
abbrev Pivot (m d : Nat) := Fin m × Fin d

namespace Grid

/-- The first significant entry of row `i` at or after column `start`. -/
def leading? (tolerance : K) (g : Grid K m d) (i : Fin m) (start : Nat) : Option (Fin d) :=
  (List.finRange d).find? fun j =>
    decide (start ≤ j) && Scalar.isSignificant tolerance (g.entry i j)

/-- The first pivot at or after `(row, column)`: later rows start at the same column. -/
def nextPivot (tolerance : K) (g : Grid K m d) (row column : Nat) : Option (Pivot m d) :=
  (List.finRange m).findSome? fun i : Fin m =>
    if row ≤ i.val then (g.leading? tolerance i column).map (i, ·) else none

/-- The pivots in the listed rows, at or after column `start`. -/
def pivotsFrom (tolerance : K) (g : Grid K m d) : List (Fin m) → Nat → List (Pivot m d)
  | [], _ => []
  | i :: rows, start =>
    match g.leading? tolerance i start with
    | none => g.pivotsFrom tolerance rows start
    | some j => (i, j) :: g.pivotsFrom tolerance rows (j + 1)

/-- All pivots, from the first row on. -/
def pivots (tolerance : K) (g : Grid K m d) : List (Pivot m d) :=
  g.pivotsFrom tolerance (List.finRange m) 0

/-- Walks the listed rows and runs `act` at each pivot.  `view` is the table inside the state; it is
read again for every row.  The answer is the last state and the pivots in order of discovery. -/
def scan {σ ε : Type} (tolerance : K) (view : σ → Grid K m d)
    (act : σ → Pivot m d → Except ε σ) :
    List (Fin m) → Nat → σ → Except ε (σ × List (Pivot m d))
  | [], _, state => .ok (state, [])
  | i :: rows, start, state =>
    match (view state).leading? tolerance i start with
    | none => scan tolerance view act rows start state
    | some j => do
      let (last, found) ← scan tolerance view act rows (j + 1) (← act state (i, j))
      return (last, (i, j) :: found)

end Grid

end LinearSystems
