import LinearSystems.Elimination.Pivots
import LinearSystems.Vec

/-!
# Parametrizations

The general solution of a system with free variables:

  `x = basePoint + t₁ · directions₁ + … + tₙ · directionsₙ`

`Parametrization.ofReduced` reads it off a reduced table and its offsets.  With the pivot row of
each pivot column at hand, the base point has that row's offset there and zero at the free columns,
and the direction of a free column has the negated entries of that column at the pivot columns, one
at its own place and zero at the other free columns.
-/

namespace LinearSystems

variable {K : Type}

/-- `freeVariables` are counted from one, one for each direction.  `dimensions` is what the maker
states as the number of unknowns. -/
structure Parametrization (K : Type) where
  dimensions : Int
  basePoint : Vec K
  directions : List (Vec K)
  freeVariables : List Int

/-- The row of the last listed pivot in column `j`. -/
def pivotRow? {m d : Nat} (pivots : List (Pivot m d)) (j : Fin d) : Option (Fin m) :=
  (pivots.reverse.find? fun p => p.2 == j).map Prod.fst

/-- The columns in which no listed pivot stands. -/
def freeColumns {m d : Nat} (pivots : List (Pivot m d)) : List (Fin d) :=
  (List.finRange d).filter fun j => (pivotRow? pivots j).isNone

section Reading

variable [Scalar K] {m d : Nat}

/-- The point whose coordinate at each pivot column is the offset of its pivot row; all other
coordinates are zero. -/
def pivotPoint (pivots : List (Pivot m d)) (offsets : Vector K m) : Vector K d :=
  Vector.ofFn fun j => match pivotRow? pivots j with
    | some i => offsets.get i
    | none => 0

/-- The direction along which the variable of column `free` grows by one.  Adding zero turns a
negated zero into a plain one. -/
def freeDirection (pivots : List (Pivot m d)) (reduced : Grid K m d) (free : Fin d) : Vector K d :=
  Vector.ofFn fun j =>
    let aligned := match pivotRow? pivots j with
      | some i => reduced.entry i free
      | none => 0
    (if j = free then 1 else -aligned) + 0

end Reading

namespace Parametrization

/-- Refuses a list of free variables that does not match the directions. -/
def ofParts (dimensions : Int) (basePoint : Vec K) (directions : List (Vec K))
    (freeVariables : List Int) : Except (Fault K) (Parametrization K) :=
  if directions.length = freeVariables.length then
    .ok ⟨dimensions, basePoint, directions, freeVariables⟩
  else .error (.freeVariableCount directions.length freeVariables.length)

def parameterCount (p : Parametrization K) : Nat := p.directions.length

variable [Scalar K]

/-- The parametrization of a reduced table with its offsets. -/
def ofReduced {m d : Nat} (reduced : Grid K m d) (offsets : Vector K m) (tolerance : K) :
    Except (Fault K) (Parametrization K) := do
  let pivots := reduced.pivots tolerance
  let free := freeColumns pivots
  let directions ← free.mapM fun j => Vec.ofComponents (freeDirection pivots reduced j) tolerance
  let basePoint ← Vec.ofComponents (pivotPoint pivots offsets) tolerance
  ofParts d basePoint directions (free.map fun j : Fin d => (j.val : Int) + 1)

/-! ## Points of the solution set -/

/-- The sums of components at the same place.  A list of one component is repeated as often as the
other needs it. -/
def addComponents (x y : List K) : Except (Fault K) (List K) :=
  if x.length = y.length then .ok (List.zipWith (· + ·) x y)
  else
    match x, y with
    | [a], y => .ok (y.map (a + ·))
    | x, [b] => .ok (x.map (· + b))
    | x, y => .error (.unequalComponents x.length y.length)

/-- One step along a direction. -/
def advance (x : List K) (parameter : K) (direction : Vec K) : Except (Fault K) (List K) :=
  addComponents x (direction.toList.map (parameter * ·))

/-- A walk of one step along each direction, from the base point on. -/
def walk : List K → List K → List (Vec K) → Except (Fault K) (List K)
  | x, parameter :: parameters, direction :: directions => do
    walk (← advance x parameter direction) parameters directions
  | x, _, _ => .ok x

omit [Scalar K] in
def requireParameters (p : Parametrization K) (count : Nat) : Except (Fault K) Unit :=
  if count = p.parameterCount then .ok () else .error (.parameterCount p.parameterCount count)

/-- The column with these components. -/
def columnOf (x : List K) (tolerance : K) : Except (Fault K) (Vec K) :=
  Vec.ofComponents (⟨x.toArray, rfl⟩ : Vector K x.length) tolerance

/-- The point at the given parameters, one for each direction. -/
def point (p : Parametrization K) (parameters : List K) : Except (Fault K) (Vec K) := do
  p.requireParameters parameters.length
  columnOf (← walk p.basePoint.toList parameters p.directions) p.basePoint.tolerance

end Parametrization

end LinearSystems
