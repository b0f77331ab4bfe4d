import LinearSystems.Value.Checks
import LinearSystems.Value.Fields
import LinearSystems.Value.Format
import LinearSystems.Value.Loose
import LinearSystems.Value.Operations

/-!
# Operations by name

What a caller can ask for by the name of an operation: the operations that stand alone (`Call.function?`)
and those of an object (`Call.method?`), on arguments of any sort.  A name that stands for no operation
has no answer at all.

Objects whose tolerance is no float have the same operations as typed ones (`Call.ofObject?`).
-/

namespace LinearSystems

namespace Call

/-- A system of equations, under any tolerance where one of them or the argument asks for it. -/
def systemOfEquations (equations tolerance : Value) : Except Refusal Value := do
  if tolerance.isForeignTier || equations.holdsLoose then
    return .ofObject (.system (← AnySystem.ofEquationValues equations tolerance))
  else return .system (← LinearSystem.ofEquationValues equations tolerance)

def systemOfArrays (coefficients offsets tolerance : Value) : Except Refusal Value := do
  if tolerance.isForeignTier then
    return .ofObject (.system (← AnySystem.ofArrayValues coefficients offsets tolerance))
  else return .system (← LinearSystem.ofArrayValues coefficients offsets tolerance)

def solved (equations tolerance backend : Value) : Except Refusal Value := do
  if tolerance.isForeignTier || equations.holdsLoose then
    let s ← AnySystem.ofValue equations tolerance
    LinearSystem.requireSolver backend
    let (r, _) ← s.reportWithText
    return .ofObject (.solution _ _ s.coefficients s.offsets s.tolerance s.equations r)
  else return .solution (← LinearSystem.solveValue equations tolerance backend)

/-- What the solver hands back for a system.  No time passes. -/
def outcomeOf (design : Value) : Except Refusal Value :=
  match design with
  | .loose (.system s) => do
    let (r, written) ← AnySystem.reportWithText s
    let typed := s.mapTolerance fun _ => Tolerance.default
    return .ofSolutionUnder s.tolerance written ⟨typed, r⟩ fun _ => 0
  | design => do
    let system ← design.toSystem
    return .ofSolution (← system.solve) fun _ => 0

def equationOf (normal offset : Value) : Except Refusal Value :=
  match normal with
  | .loose (.vec v) => do
    return .ofObject (.equation (← AnyEquation.ofNormal v (← offset.toFloat)))
  | normal => do return .equation (← LinearEquation.ofValues normal offset)

/-- The operations that make an object.  `room` is the number of bytes that there is room for. -/
def maker? (room : Nat) (name : String) (a : Arguments) : Option (Except Refusal Value) :=
  let tolerance := if name = "Matrix" ∨ name = "Vector" then a.get 1 "tolerance"
    else a.keyword "tolerance"
  match name with
  | "Matrix" => some do
    return tolerance.carry (.mat (← Mat.ofValue (a.get 0 "elements") tolerance))
  | "Vector" => some do
    return tolerance.carry (.vec (← Vec.ofValue (a.get 0 "elements") tolerance))
  | "Vector.from_values" => some do
    return tolerance.carry
      (.vec (← Vec.ofValues (a.get 0 "values") (a.keyword "horizontal") tolerance))
  | "Vector.zeros" => some do
    return tolerance.carry
      (.vec (← Vec.zeros room (a.get 0 "dimensions") (a.keyword "horizontal") tolerance))
  | "Vector.from_points" => some do
    return tolerance.carry (.vec (← Vec.ofPointValues (a.get 0 "p1") (a.get 1 "p2") tolerance))
  | "LinearEquation" => some (equationOf (a.get 0 "normal_vector") (a.get 1 "k"))
  | "LinearEquation.from_coefficients" => some do
    return tolerance.carry (.equation
      (← LinearEquation.ofCoefficients (a.get 0 "coefficients") (a.get 1 "k") tolerance))
  | "Line" => some do
    return tolerance.carry (.equation
      (← LinearEquation.line (a.get 0 "a") (a.get 1 "b") (a.get 2 "k") tolerance))
  | "Plane" => some do
    return tolerance.carry (.equation
      (← LinearEquation.plane (a.get 0 "a") (a.get 1 "b") (a.get 2 "c") (a.get 3 "k") tolerance))
  | "SystemDesign.from_equations" => some (systemOfEquations (a.get 0 "equations") tolerance)
  | "SystemDesign.from_arrays" => some (systemOfArrays (a.get 0 "A") (a.get 1 "b") tolerance)
  | "solve" => some (solved (a.get 0 "equations") tolerance (a.keyword "backend" (.text "auto")))
  | "backend.solve" => some (outcomeOf (a.get 0 "design"))
  | "Parametrization" => some do
    Value.ofParts (a.get 0 "dimensions") (a.get 1 "base_point") (a.get 2 "direction_vectors")
      (a.get 3 "free_variables")
  | "Result" => some do
    return .outcome (a.get 0 "params") (a.get 1 "info") (a.get 2 "timing") (a.get 3 "backend_name")
      (a.get 4 "warnings" (.tuple []))
  | "ToleranceTier" => some do
    return .tierOf (a.get 0 "value") (a.get 1 "name") (a.get 2 "description")
  | _ => none

/-- A requirement that is met answers with nothing. -/
def met (requirement : Except Refusal Unit) : Except Refusal Value := do
  requirement
  return .none

/-- The operations on tolerances and the requirements. -/
def tool? (name : String) (a : Arguments) : Option (Except Refusal Value) :=
  let array := a.get 0 "array"
  match name with
  | "resolve_tolerance" => some (a.get 0 "tolerance").resolve
  | "is_zero" => some do (a.get 0 "value").isZero (a.get 1 "tolerance")
  | "is_close" => some do (a.get 0 "value").isClose (a.get 1 "target") (a.get 2 "tolerance")
  | "tiers" => some do return .list (Tier.all.map .tier)
  | "constants" => some do
    return .list [.text "0.1.0", .float Tolerance.default, .float Tolerance.nearZeroFactor]
  | "check_array" => some do return .array (← array.toNamedTensor (a.get 1 "name"))
  | "check_finite" => some (met (array.requireFiniteEntries (a.get 1 "name")))
  | "check_ndim" => some (met (array.requireAxes (a.get 1 "ndim") (a.get 2 "name")))
  | "check_1d" => some (met (array.requireAxes (.int 1) (a.get 1 "name")))
  | "check_2d" => some (met (array.requireAxes (.int 2) (a.get 1 "name")))
  | "check_not_empty" => some (met (array.requireFilled (a.get 1 "name")))
  | "check_consistent_length" =>
    some (met (Value.requireEqualLengths (a.keyword "names") a.positional))
  | "check_index" => some do
    return .int (← (a.get 0 "index").requireBelow (a.get 1 "size") (a.get 2 "name"))
  | _ => none

/-- The operations that stand alone. -/
def function? (room : Nat) (name : String) (a : Arguments) : Option (Except Refusal Value) :=
  maker? room name a <|> tool? name a

/-! ## Operations of an object -/

def ofMat? (x : Mat Float) (name : String) (a : Arguments) : Option (Except Refusal Value) :=
  let other := a.get 0 "other"
  match name with
  | "scalar_multiply" => some do return .mat (← x.scaleAt (a.get 0 "scalar"))
  | "add" => some do return .mat (← x.add (← x.operand .add other))
  | "subtract" => some do return .mat (← x.subtract (← x.operand .subtract other))
  | "multiply" => some do return .mat (← x.multiply (← other.toMatOperand "rows"))
  | "transpose" => some do return .mat (← x.transpose)
  | "get_row" => some do return .vec (← x.getRowAt (a.get 0 "index"))
  | "get_column" => some do return .vec (← x.getColumnAt (a.get 0 "index"))
  | "is_zero" => some do return .bool x.isZero
  | "is_same_size" => some do return .bool (← x.isSameSizeAs other)
  | "is_equal" => some do return .bool (← x.isEqualAt other)
  | "equals_value" => some (x.equalsValueAt (a.get 0 "value") (a.get 1 "i") (a.get 2 "j"))
  | "format" => some do return .text (← x.formatAt (a.get 0 "precision" (.int 6)))
  | "to_numpy" => some do return .array (.ofGrid x.elements)
  | _ => none

/-- The operations of a vector; those that it does not have of its own are those of its matrix. -/
def ofVec? (x : Vec Float) (name : String) (a : Arguments) : Option (Except Refusal Value) :=
  let other := a.get 0 "other"
  let onto := a.get 0 "onto"
  match name with
  | "scalar_multiply" => some do return .vec (← x.scaleAt (a.get 0 "scalar"))
  | "add" => some do return .vec (← x.add (← x.operand .add other))
  | "subtract" => some do return .vec (← x.subtract (← x.operand .subtract other))
  | "multiply" => some do return .mat (← x.toMat.multiply (← other.toMatOperand "rows") .vector)
  | "transpose" => some do return .vec (← x.transpose)
  | "normalize" => some do return .vec (← x.normalize)
  | "projection" => some do return .vec (← x.projectionAt onto)
  | "orthogonal_component" => some do return .vec (← x.orthogonalComponentAt onto)
  | "parallel_component" => some do return .vec (← x.parallelComponentAt onto)
  | "cross" => some do return .vec (← x.cross (← x.spaceOperand .cross other))
  | "is_zero" => some do return .bool x.isZero
  | "equals_value" => some (x.equalsValueAt (a.get 0 "value") (a.get 1 "position"))
  | "element" => some do return .float (← x.elementAt (a.get 0 "position"))
  | "magnitude" => some do return .float x.magnitude
  | "dot" => some do return .float (← x.dotAt other)
  | "angle" => some do return .float (← x.angleAt other (a.keyword "degrees" (.bool false)))
  | "is_parallel" => some do return .bool (← x.isParallelAt other)
  | "is_orthogonal" => some do return .bool (← x.isOrthogonalAt other)
  | "is_3_dimensional" => some do return .bool x.isThreeDimensional
  | "area_of_parallelogram" => some do
    return .float (← x.areaOfParallelogram (← x.spaceOperand .areaOfParallelogram other))
  | "area_of_triangle" => some do
    return .float (← x.areaOfTriangle (← x.spaceOperand .areaOfTriangle other))
  | "to_array" => some do return .array (.ofVector x.components)
  | name => ofMat? x.toMat name a

def ofEquation? (e : LinearEquation Float) (name : String) (a : Arguments) :
    Option (Except Refusal Value) :=
  match name with
  | "base_point" => some do return .vec (← e.basePoint)
  | "is_parallel" => some do return .bool (← e.isParallel (← (a.get 0 "other").toEquationOperand))
  | "is_equal" => some do return .bool (← e.isEqual (← (a.get 0 "other").toEquationOperand))
  | "contains" => some do return .bool (← e.containsValue (a.get 0 "point"))
  | "format" => some do
    return .text (← e.formatAt (a.get 0 "symbol" (.text "v")) (a.get 1 "precision" (.int 6)))
  | _ => none

def ofSystem? (s : LinearSystem Float) (name : String) (a : Arguments) :
    Option (Except Refusal Value) :=
  match name with
  | "residuals" => some do return .array (← s.residualsAt (a.get 0 "x"))
  | "is_satisfied_by" => some do return .bool (← s.isSatisfiedByValue (a.get 0 "x"))
  | "format" => some do return .text (← s.formatAt (a.get 0 "precision" (.int 6)))
  | _ => none

/-- The operations of a general solution, by its parts. -/
def ofParametrization? (basePoint directions freeVariables : Value) (name : String)
    (a : Arguments) : Option (Except Refusal Value) :=
  match name with
  | "point" => some do
    let p ← Value.pointAt basePoint directions a.positional
    match basePoint with
    | .loose (.vec base) => base.tolerance.inherit (.vec p)
    | _ => return .vec p
  | "format" => some do
    return .text (← Value.formatParametric basePoint directions (a.get 0 "symbol" (.text "v"))
      (a.get 1 "parameter" (.text "t")) (a.get 2 "precision" (.int 6)))
  | "format_as_vectors" => some do
    return .text (← Value.formatColumns basePoint directions freeVariables
      (a.get 0 "symbol" (.text "v")) (a.get 1 "decimals" (.int 6)))
  | _ => none

def ofSolution? (s : Solution Float) (name : String) (a : Arguments) :
    Option (Except Refusal Value) :=
  match name with
  | "format_rref" => some do return .text (← s.formatReducedAt (a.get 0 "precision" (.int 6)))
  | "summary" => some do return .text (← s.summaryAt (a.get 0 "timing"))
  | _ => none

/-! ## Operations of an object under any tolerance

What looks at no tolerance is a typed operation; an object that it answers with inherits the
tolerance. -/

/-- The answer of a typed operation of an object that carries this tolerance. -/
def inheriting (tolerance : Value) (answer? : Option (Except Refusal Value)) :
    Option (Except Refusal Value) :=
  answer?.map fun answer => answer >>= tolerance.inherit

def ofAnyMat? (x : AnyMat) (name : String) (a : Arguments) : Option (Except Refusal Value) :=
  match name with
  | "is_zero" => some do return .bool (← x.isZero)
  | "is_equal" => some do return .bool (← x.isEqualAt (a.get 0 "other"))
  | "equals_value" => some (x.equalsValueAt (a.get 0 "value") (a.get 1 "i") (a.get 2 "j"))
  | name => inheriting x.tolerance (ofMat? (x.under Tolerance.default) name a.tame)

def ofAnyVec? (x : AnyVec) (name : String) (a : Arguments) : Option (Except Refusal Value) :=
  let other := a.get 0 "other"
  let onto := a.get 0 "onto"
  match name with
  | "normalize" => some do return .ofObject (.vec (← x.normalize))
  | "projection" => some do
    return .ofObject (.vec (← x.projection (← x.directionOperand .projection onto)))
  | "orthogonal_component" => some do
    return .ofObject (.vec (← x.orthogonalComponent (← x.directionOperand .projection onto)))
  | "parallel_component" => some do
    return .ofObject (.vec (← x.parallelComponent (← x.directionOperand .projection onto)))
  | "is_zero" => some do return .bool (← x.isZero)
  | "is_equal" => some do return .bool (← x.toAnyMat.isEqualAt other)
  | "equals_value" => some (x.equalsValueAt (a.get 0 "value") (a.get 1 "position"))
  | "angle" => some do return .float (← x.angleAt other (a.keyword "degrees" (.bool false)))
  | "is_parallel" => some do return .bool (← x.isParallelAt other)
  | "is_orthogonal" => some (x.isOrthogonalAt other)
  -- An area is that of a vector that is made on the way.
  | "area_of_parallelogram" | "area_of_triangle" =>
    (ofVec? x.bare name a.tame).map fun area => do
      let area ← area
      let _ ← x.tolerance.resolve
      return area
  | name => inheriting x.tolerance (ofVec? x.bare name a.tame)

def ofAnyEquation? (e : AnyEquation) (name : String) (a : Arguments) :
    Option (Except Refusal Value) :=
  match name with
  | "base_point" => some do return .ofObject (.vec (← e.basePoint))
  | "is_parallel" => some do
    return .bool (← e.isParallel (← AnyEquation.operand (a.get 0 "other")))
  | "is_equal" => some do e.isEqual (← AnyEquation.operand (a.get 0 "other"))
  | "contains" => some (e.containsValue (a.get 0 "point"))
  | "format" => some do
    let symbol := a.get 0 "symbol" (.text "v")
    let precision := a.get 1 "precision" (.int 6)
    return .text (← AnyEquation.format symbol.display (precision.toPrecision 'g') e)
  | _ => none

def ofAnySystem? (s : AnySystem) (name : String) (a : Arguments) : Option (Except Refusal Value) :=
  if name = "is_satisfied_by" then
    some do return .bool (← s.isSatisfiedByValue (a.get 0 "x"))
  else ofSystem? (s.mapTolerance fun _ => Tolerance.default) name a.tame

def ofAnySolution? (tolerance : Value) (s : Solution Float) (name : String) (a : Arguments) :
    Option (Except Refusal Value) :=
  if name = "summary" then some do return .text (← s.summaryUnder tolerance (a.get 0 "timing"))
  else ofSolution? s name a

def ofObject? (x : Object Value) (name : String) (a : Arguments) : Option (Except Refusal Value) :=
  match x with
  | .mat x => ofAnyMat? x name a
  | .vec x => ofAnyVec? x name a
  | .equation e => ofAnyEquation? e name a
  | .system s => ofAnySystem? s name a
  | .solution m d A b tolerance _ r =>
    ofAnySolution? tolerance ⟨⟨m, d, A, b, Tolerance.default, []⟩, r⟩ name a

/-! ## Operations of any value -/

/-- The operations that only objects of a sort have.  Vectors and equations look at the tolerance of
another one too, so a loose operand makes them operations under any tolerance. -/
def ofSort? (x : Value) (name : String) (a : Arguments) : Option (Except Refusal Value) :=
  match x with
  | .mat x => ofMat? x name a.tame
  | .vec v =>
    if a.hasLoose then ofAnyVec? (v.under (.float v.tolerance)) name a else ofVec? v name a
  | .equation e =>
    if a.hasLoose then ofAnyEquation? (e.mapTolerance .float) name a else ofEquation? e name a
  | .system s => ofSystem? s name a.tame
  | .parametrization _ basePoint directions freeVariables =>
    ofParametrization? basePoint directions freeVariables name a
  | .solution s => ofSolution? s name a
  | .outcome _ _ _ _ warnings =>
    if name = "has_warning" then
      some do return .bool (← (a.get 0 "substring").isInSome (← warnings.items))
    else none
  | .loose x => ofObject? x name a
  | _ => none

/-- The operations of a value: those that all values have, and those of its sort. -/
def method? (x : Value) (name : String) (a : Arguments) : Option (Except Refusal Value) :=
  match name with
  | "repr" => some do return .text (← x.literal)
  | "str" => some do return .text (← x.display)
  | "get" => some do x.fieldAt (a.get 0 "name")
  | "item" => some do x.itemAt (a.get 0 "i")
  | name => ofSort? x name a

end Call

end LinearSystems
