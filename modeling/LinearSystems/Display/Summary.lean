import LinearSystems.Display.Messages
import LinearSystems.Display.Parametric

/-!
# Tables and descriptions

Matrices and augmented matrices as text, one row per line.  All cells of a table are as wide as its
widest; the offsets of an augmented matrix behind the bar have a width of their own.

Then one-line descriptions of matrices, vectors, equations, systems and solutions, and the report on a
solved system that is meant for reading.
-/

namespace LinearSystems

/-! ## Tables -/

namespace Display

variable {K : Type} [Scalar K]

/-- The text of a number in a table, where zero has no sign. -/
def cell (num : K → String) (x : K) : String := num (x + 0)

/-- The lines of a table of cells. -/
def tableLines (cells : List (List String)) : List String :=
  let width := Text.widest cells.flatten
  cells.map fun row => Text.spaced (row.map (Text.padLeft width))

/-- The lines of a table with one more cell behind a bar in each row. -/
def augmentedLines (left : List (List String)) (right : List String) : List String :=
  let width := Text.widest left.flatten
  let rightWidth := Text.widest right
  List.zipWith
    (fun row last =>
      Text.spaced (row.map (Text.padLeft width)) ++ " | " ++ Text.padLeft rightWidth last)
    left right

/-- A table of numbers. -/
def matrix (num : K → String) (rows : List (List K)) : String :=
  Text.lines (tableLines (rows.map fun row => row.map (cell num)))

/-- A table of coefficients with their offsets. -/
def augmented (num : K → String) (rows : List (List K)) (offsets : List K) : String :=
  Text.lines (augmentedLines (rows.map fun row => row.map (cell num)) (offsets.map (cell num)))

end Display

/-! ## Descriptions -/

namespace Mat

def format (a : Mat Float) (num : Float → String) : String :=
  Display.matrix num a.elements.toLists

/-- The description with the text of the tolerance. -/
def describeWith {T : Type} (a : Mat Float T) (tolerance : String) : String :=
  s!"Matrix(shape={Display.shape [a.rows, a.columns]}, tolerance={tolerance})"

def describe (a : Mat Float) : String := a.describeWith (Display.short a.tolerance)

end Mat

namespace Vec

def describe (v : Vec Float) : String :=
  let orientation := if v.isHorizontal then "horizontal" else "vertical"
  let values := ", ".intercalate (v.toList.map Display.short)
  s!"Vector([{values}], {orientation})"

end Vec

namespace LinearSystem

def format (s : LinearSystem Float) (num : Float → String) : String :=
  Display.augmented num s.coefficients.toLists s.offsets.toList

/-- The description with the text of the tolerance. -/
def describeWith {T : Type} (s : LinearSystem Float T) (tolerance : String) : String :=
  s!"SystemDesign(n_equations={s.equationCount}, dimensions={s.dimensions}, " ++
    s!"tolerance={tolerance})"

def describe (s : LinearSystem Float) : String := s.describeWith (Display.short s.tolerance)

end LinearSystem

namespace Solution

/-- The reduced augmented matrix. -/
def formatReduced (s : Solution Float) (num : Float → String) : String :=
  Display.augmented num s.report.rows.toLists s.report.offsets.toList

def describe (s : Solution Float) : String :=
  s!"SystemSolution(kind={s.kind.name}, n_equations={s.system.equationCount}, " ++
    s!"dimensions={s.system.dimensions}, rank={s.rank})"

/-- The verdict in words, followed by the solutions. -/
def verdict (s : Solution Float) : List String :=
  match s.kind with
  | .inconsistent => ["No solution exists for the system."]
  | .unique =>
    let values := (s.report.solution.map Vec.toList).getD []
    "One solution exists for the system:" ::
      values.zipIdx.map fun (x, i) => s!"  v{i + 1} = {Display.cell Display.short x}"
  | .infinite =>
    let lines := (s.report.parametrization.map fun p => p.lines "v" "t").getD []
    "Infinitely many solutions exist for the system:" ::
      lines.map fun line => "  " ++ Piece.textOf Display.short line

/-- The report on a solved system, with the texts of its tolerance and of the time that it took.  The
time is left out when it is not known. -/
def summaryWith (s : Solution Float) (tolerance : String) (seconds : Option String) : String :=
  Text.lines <|
    ["Linear System",
      String.ofList (List.replicate 60 '='),
      s!"Equations: {s.system.equationCount}",
      s!"Unknowns: {s.system.dimensions}",
      s!"Rank: {s.rank}",
      s!"Tolerance: {tolerance}",
      "",
      "System [A | b]:",
      s.system.format Display.short,
      "",
      "Reduced row-echelon form:",
      s.formatReduced Display.short,
      ""] ++
    s.verdict ++
    [String.ofList (List.replicate 60 '-'), s!"Backend: {backendName}"] ++
    (seconds.map fun t => s!"Time: {t}s").toList ++
    (s.report.warnings tolerance).map fun w => "Warning: " ++ w

end Solution

end LinearSystems
