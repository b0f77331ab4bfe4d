import LinearSystems.Decimal.Notation
import LinearSystems.Fault
import LinearSystems.Solution
import LinearSystems.Stopwatch.Basic
import LinearSystems.Tensor.Basic
import LinearSystems.Text.Layout

/-!
# Messages

The wording of every fault over floats, and of the warnings of a solve.  Shapes are written as
tuples; a tolerance in running text has six significant digits, a value that was refused has as many
as it takes to read it back.
-/

namespace LinearSystems

namespace Display

/-- Items between parentheses; a single one keeps a comma. -/
def tuple : List String → String
  | [item] => "(" ++ item ++ ",)"
  | items => "(" ++ ", ".intercalate items ++ ")"

def shape (extents : List Nat) : String := tuple (extents.map toString)

def extents (e : Extents) : String := shape [e.1, e.2]

/-- Six significant digits. -/
def short (x : Float) : String := Decimal.general 6 x

/-- What is said of something that is no index of an array. -/
def notAnIndex : String :=
  "only integers, slices (`:`), ellipsis (`...`), numpy.newaxis (`None`) and integer or boolean " ++
    "arrays are valid indices"

/-- A shape without blanks. -/
def compactShape : List Nat → String
  | [n] => s!"({n},)"
  | extents => "(" ++ ",".intercalate (extents.map toString) ++ ")"

/-- Items named by their position: `argument[0]=…, argument[1]=…`. -/
def enumerated (argument : String) (items : List String) : String :=
  ", ".intercalate (items.zipIdx.map fun (item, i) => s!"{argument}[{i}]={item}")

/-- What is said of equations whose tolerances are written so. -/
def unequalTolerances (written : List String) : String :=
  "Inconsistent equation tolerances: " ++ enumerated "equations" written ++
    "; pass tolerance= to choose one"

/-- What is said of a pivot that reads as zero within a tolerance that is written so. -/
def vanishedPivot (row column : Int) (value : Float) (tolerance : String) : String :=
  s!"Pivot at row {row}, variable {column} reads np.float64({Decimal.shortestText value}), " ++
    s!"within tolerance {tolerance} of zero"

/-! ## Sizes in bytes

A number of bytes is written in the largest unit of which it is at least one.  Each unit is 1024 of
the one below.  Below a thousand three digits are written, and the point stands even where no digit
follows it: `745. GiB`. -/

/-- The units, smallest first. -/
def byteUnits : List String := ["bytes", "KiB", "MiB", "GiB", "TiB", "PiB", "EiB"]

/-- Three significant digits, trailing zeros and the point included, of a number from one to a
thousand. -/
def threeDigits (x : Float) : String :=
  match Binary64.ofFloat x with
  | .finite _ significand exponent =>
    let (digits, top) := Decimal.roundedDigits 2 significand exponent
    String.ofList (digits.take (top.toNat + 1) ++ '.' :: digits.drop (top.toNat + 1))
  | _ => ""

/-- A size in units of which the listed ones are left, smallest first. -/
def sizeIn (bytes : Nat) : Nat → List String → String
  | _, [] => ""
  | scale, unit :: larger =>
    let x := Float.ofNat bytes / Float.ofNat scale
    -- What rounds to a whole unit of the next kind is told in that one.
    if 1023.5 ≤ x && !larger.isEmpty then sizeIn bytes (scale * 1024) larger
    else if scale = 1 then Decimal.fixed 0 x ++ " " ++ unit
    else if x < 999.5 then threeDigits x ++ " " ++ unit
    else Decimal.fixed 0 x ++ ". " ++ unit

def byteSize (bytes : Nat) : String := sizeIn bytes 1 byteUnits

end Display

/-! ## Wordings -/

def FaultClass.name : FaultClass → String
  | .any => "PyLinalgError"
  | .validation => "ValidationError"
  | .dimension => "DimensionError"
  | .shapeMismatch => "ShapeMismatchError"
  | .degenerate => "DegenerateInputError"
  | .numerical => "NumericalError"
  | .invariantViolation => "InvariantViolationError"

def Family.name : Family → String
  | .matrix => "Matrix"
  | .vector => "Vector"

def Operation.name : Operation → String
  | .multiply => "multiply"
  | .add => "add"
  | .subtract => "subtract"
  | .fromPoints => "from_points"
  | .dot => "dot"
  | .angle => "angle"
  | .isParallel => "is_parallel"
  | .normalize => "normalize"
  | .projection => "projection"
  | .cross => "cross"
  | .areaOfParallelogram => "area_of_parallelogram"
  | .areaOfTriangle => "area_of_triangle"

namespace Fault

open Display

def message : Fault Float → String
  | axisCount argument expected actual =>
    s!"{argument}: expected {expected}D array, got {actual.length}D with shape {shape actual}"
  | empty argument actual => s!"{argument}: empty array with shape {shape actual}"
  | nonFinite argument undefined infinite =>
    s!"{argument}: contains non-finite values ({undefined} NaN, {infinite} Inf)"
  | tolerance value => s!"tolerance: must be positive and finite, got {Decimal.shortestText value}"
  | notThin actual =>
    s!"Vector must be either Nx1 (vertical) or 1xN (horizontal), got shape {shape actual}"
  | pointSizes left right => s!"Vector.from_points: points have {left} and {right} dimensions"
  | unequalExtents family operation left right =>
    s!"{family.name}.{operation.name}: shapes {extents left} and {extents right} must be equal"
  | innerExtents family left right =>
    s!"{family.name}.multiply: {left.2} columns do not match {right.1} rows of the right operand"
  | unequalDimensions operation left right =>
    s!"Vector.{operation.name}: vectors must have the same dimensions, " ++
      s!"got {left.1 * left.2} and {right.1 * right.2}"
  | zeroVector operation => s!"Vector.{operation.name}: cannot use a zero vector"
  | notThreeDimensional operation => s!"Vector.{operation.name}: vectors must be 3 dimensional"
  | indexRange argument index size => s!"{argument}: index {index} out of range for size {size}"
  | nonFiniteOffset value => s!"k: must be finite, got {Decimal.shortestText value}"
  | zeroNormal => "LinearEquation.base_point: normal vector is zero, no base point"
  | pointCoordinates expected actual => s!"point: expected {expected} coordinates, got {actual}"
  | candidateCoordinates expected actual => s!"x: expected {expected} coordinates, got {actual}"
  | noEquations argument => s!"{argument}: system has no equations"
  | noUnknowns => "A: equations have no unknowns"
  | unequalEquationDimensions dimensions =>
    "Inconsistent equation dimensions: " ++ enumerated "equations" (dimensions.map toString)
  | unequalEquationTolerances tolerances => unequalTolerances (tolerances.map short)
  | unequalLengths lengths =>
    "Inconsistent lengths: " ++ ", ".intercalate (lengths.map fun (name, n) => s!"{name}={n}")
  | vanishedPivot row column value limit => Display.vanishedPivot row column value (short limit)
  | parameterCount expected actual => s!"point: expected {expected} parameters, got {actual}"
  | freeVariableCount directions freeVariables =>
    s!"Parametrization: {directions} direction vectors but {freeVariables} free variables"
  | unequalComponents left right =>
    s!"operands could not be broadcast together with shapes {shape [left]} {shape [right]} "
  | zeroDivision => "float division by zero"

end Fault

namespace ArrayFault

open Display

def message : ArrayFault → String
  | unequalShapes shapes =>
    "operands could not be broadcast together with shapes " ++ following shapes
  | narrowTarget target result =>
    s!"non-broadcastable output operand with shape {compactShape target} doesn't match the " ++
      s!"broadcast shape {compactShape result}"
  | tooManyIndices axes parts =>
    s!"too many indices for array: array is {axes}-dimensional, but {parts} were indexed"
  | maskExtent axis size extent =>
    s!"boolean index did not match indexed array along axis {axis}; size of axis is {size} but " ++
      s!"size of corresponding boolean axis is {extent}"
  | outOfBounds index axis size =>
    s!"index {index} is out of bounds for axis {axis} with size {size}"
  | unequalPicks shapes =>
    "shape mismatch: indexing arrays could not be broadcast together with shapes " ++
      following shapes
  | unfitValue value part =>
    s!"could not broadcast input array from shape {compactShape value} into shape " ++
      compactShape part
  | unfitPicks value places =>
    s!"shape mismatch: value array of shape {compactShape value} could not be broadcast to " ++
      s!"indexing result of shape {compactShape places}"
  | unfitMask values places =>
    s!"NumPy boolean array indexing assignment cannot assign {values} input values to the " ++
      s!"{places} output values where the mask is true"
  | deepMaskValue axes =>
    "NumPy boolean array indexing assignment requires a 0 or 1-dimensional input, input has " ++
      s!"{axes} dimensions"
  | sequenceElement => "setting an array element with a sequence."
where
  /-- Shapes one after the other, a blank behind each. -/
  following (shapes : List (List Nat)) : String :=
    String.join (shapes.map fun s => compactShape s ++ " ")

end ArrayFault

def SolutionKind.name : SolutionKind → String
  | .inconsistent => "inconsistent"
  | .unique => "unique"
  | .infinite => "infinite"

def SolveSection.name : SolveSection → String
  | .triangularForm => "triangular_form"
  | .reducedRowEchelon => "reduced_row_echelon"
  | .classification => "classification"
  | .parametrization => "parametrization"

/-- The entries of the timing of an elimination: the whole run, then each section. -/
def Report.timingNames {K : Type} {m d : Nat} (r : Report K m d) : List String :=
  Stopwatch.totalName :: r.sections.map SolveSection.name

/-- The method of the only solver there is. -/
def SolveInfo.method : String := "gauss_jordan"

namespace Solution

/-- The name of the only solver there is. -/
def backendName : String := "cpu_gauss_jordan"

/-- The warning for a pivot that is close to the tolerance, which is given as it is written. -/
def pivotWarning (tolerance : String) (row column : Nat) (value : Float) : String :=
  s!"pivot for v{column + 1} (row {row}) has magnitude {Decimal.general 3 value.abs}, " ++
    s!"close to tolerance {tolerance}; " ++
    "classification may depend on the tolerance"

end Solution

/-- One warning for each small pivot, in the order in which they were met. -/
def Report.warnings {m d : Nat} (r : Report Float m d) (tolerance : String) : List String :=
  r.smallPivots.map fun ((i, j), value) => Solution.pivotWarning tolerance i j value

/-- What is to be said of the small pivots of a solve. -/
def Solution.warnings (s : Solution Float) : List String :=
  s.report.warnings (Display.short s.system.tolerance)

end LinearSystems
