import LinearSystems.Solution

/-!
# Objects under tolerances of any sort

A tier hands over whatever value it was made with, and an object keeps what it is handed.  So besides
the typed objects, whose tolerance is a scalar like their entries, there are objects of which nothing
is known but that they carry *some* tolerance: `Object T` is an object of the library whose tolerances
are of the sort `T`.
-/

namespace LinearSystems

/-- An object whose tolerances are of the sort `T`. -/
inductive Object (T : Type) where
  | mat (a : Mat Float T)
  | vec (v : Vec Float T)
  | equation (e : LinearEquation Float T)
  | system (s : LinearSystem Float T)
  /-- The parts of a system, and the report on its solution.  What a report holds is made anew, so its
  tolerances are floats. -/
  | solution (m d : Nat) (coefficients : Grid Float m d) (offsets : Vector Float m) (tolerance : T)
      (equations : List (LinearEquation Float T)) (report : Report Float m d)

namespace LinearEquation

variable {K T S : Type}

/-- The equation under the image of its tolerance. -/
def mapTolerance (f : T → S) (e : LinearEquation K T) : LinearEquation K S := e.under (f e.tolerance)

end LinearEquation

namespace LinearSystem

variable {K T S : Type}

/-- The system and its equations under the images of their tolerances. -/
def mapTolerance (f : T → S) (s : LinearSystem K T) : LinearSystem K S where
  equationCount := s.equationCount
  dimensions := s.dimensions
  coefficients := s.coefficients
  offsets := s.offsets
  tolerance := f s.tolerance
  equations := s.equations.map (LinearEquation.mapTolerance f)

end LinearSystem

namespace Object

variable {T S : Type}

/-- The object under the images of its tolerances. -/
def map (f : T → S) : Object T → Object S
  | mat a => mat (a.under (f a.tolerance))
  | vec v => vec (v.under (f v.tolerance))
  | equation e => equation (e.mapTolerance f)
  | system s => system (s.mapTolerance f)
  | solution m d A b tolerance equations r =>
    solution m d A b (f tolerance) (equations.map (LinearEquation.mapTolerance f)) r

/-- The tolerances that an object and its equations carry. -/
def tolerances : Object T → List T
  | mat a => [a.tolerance]
  | vec v => [v.tolerance]
  | equation e => [e.tolerance]
  | system s => s.tolerance :: s.equations.map LinearEquation.tolerance
  | solution _ _ _ _ tolerance equations _ => tolerance :: equations.map LinearEquation.tolerance

/-- The name of the sort of an object. -/
def typeName : Object T → String
  | mat _ => "Matrix"
  | vec _ => "Vector"
  | equation e =>
    match e.form with
    | .general => "LinearEquation"
    | .line => "Line"
    | .plane => "Plane"
  | system _ => "SystemDesign"
  | solution .. => "SystemSolution"

end Object

end LinearSystems
