import LinearSystems.Value.Checks

/-!
# Fields

The metadata of a solve as a dictionary, and the envelope in which a solver hands back its payload.

Then the named parts of the objects of this library, each as a value.  A name that an object does not
have is a fault of its sort.
-/

namespace LinearSystems

namespace Value

/-! ## Outcomes -/

/-- A pivot as a pair. -/
def ofPivot {m d : Nat} (p : Pivot m d) : Value := ofNats [p.1, p.2]

/-- The metadata of a solve, the tolerance given apart. -/
def ofInfo (info : SolveInfo Float) (tolerance : Value := float info.tolerance) : Value :=
  dict
    [("method", text SolveInfo.method),
      ("kind", text info.kind.name),
      ("rank", int info.rank),
      ("pivots", list (info.pivots.map fun (i, j) => ofNats [i, j])),
      ("n_equations", int info.equationCount),
      ("dimensions", int info.dimensions),
      ("n_free", int info.freeCount),
      ("tolerance", tolerance)]

/-- A solved system in its envelope, its tolerance and the text of that given apart.  `seconds` tells how
long each section took. -/
def ofSolutionUnder (tolerance : Value) (written : String) (s : Solution Float)
    (seconds : String → Float) : Value :=
  outcome (params _ _ s.report) (ofInfo s.info tolerance)
    (dict (s.report.timingNames.map fun name => (name, float (seconds name))))
    (text Solution.backendName) (tuple ((s.report.warnings written).map text))

def ofSolution (s : Solution Float) (seconds : String → Float) : Value :=
  ofSolutionUnder (float s.system.tolerance) (Display.short s.system.tolerance) s seconds

/-! ## Named parts -/

/-- The fields that a payload and a report share; `matrixName` is what the reduced matrix is called
there. -/
def reducedField? {m d : Nat} (matrixName : String) (r : Report Float m d) (name : String) :
    Option Value :=
  if name = matrixName then some (array (.ofGrid r.rows))
  else
    match name with
    | "kind" => some (kind r.kind)
    | "offsets" => some (array (.ofVector r.offsets))
    | "pivots" => some (tuple (r.pivots.map ofPivot))
    | "rank" => some (int r.rank)
    | "solution" => some (ofOption (r.solution.map vec))
    | "parametrization" => some (ofOption (r.parametrization.map ofParametrization))
    | _ => .none

def reportField? {m d : Nat} (r : Report Float m d) : String → Option Value
  | "small_pivots" => some (tuple (r.smallPivots.map fun ((i, j), x) =>
      tuple [int i.val, int j.val, float x]))
  | name => reducedField? "matrix" r name

def matField? (a : Mat Float) : String → Option Value
  | "elements" => some (array (.ofGrid a.elements))
  | "rows" => some (int a.rows)
  | "columns" => some (int a.columns)
  | "shape" => some (ofNats [a.rows, a.columns])
  | "tolerance" => some (float a.tolerance)
  | _ => .none

def vecField? (v : Vec Float) : String → Option Value
  | "horizontal" => some (bool v.isHorizontal)
  | "vertical" => some (bool !v.isHorizontal)
  | "dimensions" => some (int v.dimensions)
  | name => matField? v.toMat name

def equationField? (e : LinearEquation Float) : String → Option Value
  | "normal_vector" => some (vec e.normal)
  | "k" => some (float e.offset)
  | "dimensions" => some (int e.dimensions)
  | "tolerance" => some (float e.tolerance)
  | _ => .none

def systemField? (s : LinearSystem Float) : String → Option Value
  | "A" => some (array (.ofGrid s.coefficients))
  | "b" => some (array (.ofVector s.offsets))
  | "n_equations" => some (int s.equationCount)
  | "dimensions" => some (int s.dimensions)
  | "tolerance" => some (float s.tolerance)
  | "equations" => some (tuple (s.equations.map equation))
  | _ => .none

def solutionField? (s : Solution Float) : String → Option Value
  | "params" => some (params _ _ s.report)
  | "design" => some (system s.system)
  | "is_consistent" => some (bool s.isConsistent)
  | "is_unique" => some (bool s.isUnique)
  | "is_infinite" => some (bool s.isInfinite)
  | "free_variables" => some (ofNats s.freeVariables)
  | "info" => some (ofInfo s.info)
  | "backend_name" => some (text Solution.backendName)
  | "warnings" => some (tuple (s.warnings.map text))
  | "reduced_offsets" => some (array (.ofVector s.report.offsets))
  | "offsets" => .none
  | name => reducedField? "rref" s.report name

/-- The fields of an array of the given extents. -/
def arrayField? (extents : List Nat) : String → Option Value
  | "shape" => some (ofNats extents)
  | "ndim" => some (int extents.length)
  | "size" => some (int (entryCount extents))
  | _ => .none

/-- The fields of an object that show its tolerance, or another object under it. -/
def looseField? (x : Object Value) (name : String) : Option Value :=
  match x, name with
  | .mat a, "tolerance" => some a.tolerance
  | .vec v, "tolerance" => some v.tolerance
  | .equation e, "tolerance" => some e.tolerance
  | .equation e, "normal_vector" => some (ofObject (.vec e.normal))
  | .system s, "tolerance" => some s.tolerance
  | .system s, "equations" => some (tuple (s.equations.map fun e => ofObject (.equation e)))
  | .solution m d A b tolerance equations _, "design" =>
    some (ofObject (.system ⟨m, d, A, b, tolerance, equations⟩))
  | .solution m d A b tolerance _ r, "info" =>
    some (ofInfo (⟨⟨m, d, A, b, Tolerance.default, []⟩, r⟩ : Solution Float).info tolerance)
  -- There are warnings only if the tolerance could be written when the system was solved.
  | .solution _ _ _ _ tolerance _ r, "warnings" =>
    some (tuple ((r.warnings (tolerance.shortText.toOption.getD "")).map text))
  | _, _ => .none

/-- The field of this name. -/
def field? (v : Value) (name : String) : Option Value :=
  match v, name with
  | mat a, name => matField? a name
  | vec w, name => vecField? w name
  | equation e, name => equationField? e name
  | system s, name => systemField? s name
  | solution s, name => solutionField? s name
  | params _ _ r, name => reducedField? "rref" r name
  | report _ _ r, name => reportField? r name
  | parametrization dimensions .., "dimensions" => some dimensions
  | parametrization _ basePoint .., "base_point" => some basePoint
  | parametrization _ _ directions _, "direction_vectors" => some directions
  | parametrization _ _ _ freeVariables, "free_variables" => some freeVariables
  | parametrization _ _ directions _, "n_parameters" =>
    directions.count.toOption.map fun n : Nat => int n
  | outcome payload .., "params" => some payload
  | outcome _ info .., "info" => some info
  | outcome _ _ timing .., "timing" => some timing
  | outcome _ _ _ backendName _, "backend_name" => some backendName
  | outcome _ _ _ _ warnings, "warnings" => some warnings
  | tierOf value _ _, "value" => some value
  | tierOf _ name _, "name" => some name
  | tierOf _ _ description, "description" => some description
  | kind k, "value" => some (text k.name)
  | kind k, "name" => some (text (String.ofList (k.name.toList.map Char.toUpper)))
  | v, name => v.arrayShape?.bind fun extents => arrayField? extents name

/-- The value of a field.  Objects under tolerances of other sorts have the fields of typed ones. -/
def field (v : Value) (name : String) : Except SortFault Value :=
  let own? := match v with
    | loose x => looseField? x name
    | _ => .none
  (own?.or (v.tame.field? name)).elim (.error (.missingAttribute v.qualifiedName name)) .ok

/-- The value of the field that is named by a value. -/
def fieldAt (v : Value) : Value → Except SortFault Value
  | text name => v.field name
  | name => .error (.fieldNameSort name.qualifiedName)

end Value

end LinearSystems
