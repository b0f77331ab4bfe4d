import LinearSystems.Elimination.Reduction

/-!
# Solutions

A solved system: the system together with the report on its elimination, and what can be read off
the two of them.
-/

namespace LinearSystems

variable {K : Type}

structure Solution (K : Type) where
  system : LinearSystem K
  report : Report K system.equationCount system.dimensions

/-- The parts of a solve that are timed. -/
inductive SolveSection where
  | triangularForm
  | reducedRowEchelon
  | classification
  | parametrization
deriving DecidableEq

namespace Report

variable {m d : Nat}

/-- The sections that the elimination behind this report went through, in order. -/
def sections (r : Report K m d) : List SolveSection :=
  [.triangularForm, .reducedRowEchelon, .classification] ++
    if r.kind = .infinite then [.parametrization] else []

end Report

namespace Solution

def kind (s : Solution K) : SolutionKind := s.report.kind

def isConsistent (s : Solution K) : Bool := s.kind != .inconsistent

def isUnique (s : Solution K) : Bool := s.kind == .unique

def isInfinite (s : Solution K) : Bool := s.kind == .infinite

def rank (s : Solution K) : Nat := s.report.rank

/-- The variables without a pivot, counted from one. -/
def freeVariables (s : Solution K) : List Nat :=
  (freeColumns s.report.pivots).map fun j : Fin s.system.dimensions => j.val + 1

/-- The number of unknowns that the pivots leave undetermined. -/
def freeCount (s : Solution K) : Int := s.system.dimensions - s.rank

end Solution

/-- What a solve has to say besides its numbers. -/
structure SolveInfo (K : Type) where
  kind : SolutionKind
  rank : Nat
  /-- Row and column of each pivot. -/
  pivots : List (Nat × Nat)
  equationCount : Nat
  dimensions : Nat
  freeCount : Int
  tolerance : K

def Solution.info (s : Solution K) : SolveInfo K where
  kind := s.kind
  rank := s.rank
  pivots := s.report.pivots.map fun (i, j) => (i.val, j.val)
  equationCount := s.system.equationCount
  dimensions := s.system.dimensions
  freeCount := s.freeCount
  tolerance := s.system.tolerance

namespace LinearSystem

variable [Scalar K]

/-- The same equations under another tolerance. -/
def withTolerance (s : LinearSystem K) (tolerance : K) : Except (Fault K) (LinearSystem K) :=
  ofEquations s.equations (some tolerance)

/-- Solves the system by elimination. -/
def solve (s : LinearSystem K) : Except (Fault K) (Solution K) := do
  return ⟨s, ← (Elimination.ofSystem s).solve.1⟩

end LinearSystem

end LinearSystems
