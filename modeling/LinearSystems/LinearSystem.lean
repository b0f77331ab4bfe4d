import LinearSystems.LinearEquation

/-!
# Systems of linear equations

A system `A x = b` with its tolerance and the equations it was made of.  This is the boundary of
the solver: `LinearSystem.ofEquations` and `LinearSystem.ofArrays` check everything that the
elimination relies on.
-/

namespace LinearSystems

variable {K : Type}

structure LinearSystem (K : Type) (T : Type := K) where
  equationCount : Nat
  dimensions : Nat
  coefficients : Grid K equationCount dimensions
  offsets : Vector K equationCount
  tolerance : T
  equations : List (LinearEquation K T)

namespace LinearSystem

variable [Scalar K]

/-- The values are one and the same: they compare equal, or both are undefined. -/
def sameTolerance (x y : K) : Bool := x == y || Scalar.isNaN x && Scalar.isNaN y

/-- The tolerance that all equations share. -/
def commonTolerance (first : LinearEquation K) (rest : List (LinearEquation K)) :
    Except (Fault K) K :=
  if rest.all fun e => sameTolerance first.tolerance e.tolerance then .ok first.tolerance
  else .error (.unequalEquationTolerances ((first :: rest).map LinearEquation.tolerance))

omit [Scalar K] in
/-- Refuses equations in different numbers of unknowns. -/
def requireEqualDimensions (first : LinearEquation K) (rest : List (LinearEquation K)) :
    Except (Fault K) (PLift (∀ e ∈ first :: rest, e.dimensions = first.dimensions)) :=
  if h : ∀ e ∈ first :: rest, e.dimensions = first.dimensions then .ok ⟨h⟩
  else .error (.unequalEquationDimensions ((first :: rest).map LinearEquation.dimensions))

omit [Scalar K] in
/-- The system of equations that are known to share a number of unknowns. -/
def assemble (equations : List (LinearEquation K)) (dimensions : Nat)
    (shared : ∀ e ∈ equations, e.dimensions = dimensions) (tolerance : K) : LinearSystem K where
  equationCount := equations.length
  dimensions := dimensions
  coefficients := Grid.ofFn fun i j =>
    (equations.get i).normal.component (j.cast (shared _ (List.getElem_mem i.2)).symm)
  offsets := Vector.ofFn fun i => (equations.get i).offset
  tolerance := tolerance
  equations := equations

/-- The system of a list of equations.  `chosen` is the tolerance of the whole system; without it
the equations have to agree on one. -/
def ofEquations (equations : List (LinearEquation K)) (chosen : Option K) :
    Except (Fault K) (LinearSystem K) :=
  match equations with
  | [] => .error (.noEquations "equations")
  | first :: rest => do
    let ⟨shared⟩ ← requireEqualDimensions first rest
    let tolerance ← match chosen with
      | some tolerance => pure tolerance
      | none => commonTolerance first rest
    return assemble (first :: rest) first.dimensions shared tolerance

/-- What a coefficient table and its offsets have to satisfy before they are read as a system. -/
def requireArrays {m d n : Nat} (coefficients : Grid K m d) (offsets : Vector K n) :
    Except (Fault K) (PLift (n = m)) := do
  if m = 0 then throw (.noEquations "A")
  if d = 0 then throw .noUnknowns
  if h : n = m then
    requireFinite "A" coefficients.toList
    requireFinite "b" offsets.toList
    return ⟨h⟩
  else throw (.unequalLengths [("A", m), ("b", n)])

/-- The equation of row `i`. -/
def rowEquation {m d : Nat} (coefficients : Grid K m d) (offsets : Vector K m) (tolerance : K)
    (i : Fin m) : Except (Fault K) (LinearEquation K) := do
  LinearEquation.ofNormal (← Vec.ofComponents (coefficients.row i) tolerance) (offsets.get i)

/-- The system of a coefficient table and offsets that passed `requireArrays`. -/
def ofArrays {m d : Nat} (coefficients : Grid K m d) (offsets : Vector K m) (tolerance : K) :
    Except (Fault K) (LinearSystem K) := do
  let equations ← (List.finRange m).mapM (rowEquation coefficients offsets tolerance)
  return ⟨m, d, coefficients, offsets, tolerance, equations⟩

/-! ## Candidate solutions -/

/-- `A x - b`, provided `x` has as many coordinates as the system has unknowns. -/
def residuals (s : LinearSystem K) {n : Nat} (x : Vector K n) :
    Except (Fault K) (Vector K s.equationCount) :=
  if h : s.dimensions = n then
    .ok (Vector.ofFn fun i =>
      sumOfProducts (s.coefficients.entry i) (fun j => x.get (j.cast h)) - s.offsets.get i)
  else .error (.candidateCoordinates s.dimensions n)

/-- Every equation holds at `x` within the tolerance of the system. -/
def isSatisfiedBy (s : LinearSystem K) {n : Nat} (x : Vector K n) : Except (Fault K) Bool := do
  return (← s.residuals x).all (Scalar.isSmall s.tolerance)

end LinearSystem

end LinearSystems
