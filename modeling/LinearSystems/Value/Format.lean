import LinearSystems.Value.Construct

/-!
# Formats from values

Displays of values of unknown sort, with a number of digits of unknown sort.  Everything is read in the
order in which it is written: a number when its turn comes, the number of digits behind each number,
and a symbol before what it stands for.  So a display without numbers succeeds whatever the precision
says, and of several faults the one met first wins.
-/

namespace LinearSystems

/-- A notation for floats, by the letter that messages know it under. -/
structure DigitNotation where
  letter : Char
  write : Nat → Float → String

namespace DigitNotation

/-- So many significant digits. -/
def significant : DigitNotation := ⟨'g', Decimal.general⟩

/-- So many digits after the point. -/
def places : DigitNotation := ⟨'f', Decimal.fixed⟩

end DigitNotation

namespace Value

/-- A number with a number of digits of unknown sort. -/
def writeWith (form : DigitNotation) (v precision : Value) : Except ArgumentFault String := do
  let written ← precision.display
  let digits (typeName : String) := readPrecision typeName form.letter written
  match v with
  | float x | wordFloat x => return form.write (← digits "float") x
  | complex re im | bulk .complex [] [complex re im] =>
    return complexDigits (form.write (← digits "complex")) re im
  | v => throw (.sort (.notFormattable v.qualifiedName))

/-- The text of a cell.  Adding zero removes the sign of zero, and is what a value that is no number
cannot do. -/
def cellWith (form : DigitNotation) (precision v : Value) : Except ArgumentFault String := do
  (← v.combine .add (float 0)).writeWith form precision

end Value

namespace Display

open Value

/-- An augmented matrix; a part without any cell has no width. -/
def augmentedAt (coefficients offsets precision : Value) : Except ArgumentFault String := do
  let cell := cellWith .significant precision
  let left ← (← coefficients.items).mapM fun row => do (← row.items).mapM cell
  let right ← (← offsets.items).mapM cell
  if left.flatten.isEmpty || right.isEmpty then throw .emptyTable
  return Text.lines (augmentedLines left right)

/-! ## Parametric layout -/

/-- The terms of a coordinate with that of one more direction behind them, which the parameter of this
number scales. -/
def addTerm (tolerance parameter precision : Value) (place : Nat) (terms : String)
    (direction : Value × Nat) : Except ArgumentFault String := do
  let c ← (← direction.1.itemAt (.int place)).toFloat
  if ← (Value.float c.abs).holds .less tolerance then return terms
  let name := numbered (← parameter.display) direction.2
  let isUnit ← (Value.float (c.abs - 1).abs).holds .less tolerance
  let size ← if isUnit then pure "" else cellWith .significant precision (.float c.abs)
  return terms ++ Piece.sign terms.isEmpty (c < 0) ++ size ++ name

/-- The line of the parametric layout for one coordinate. -/
def parametricLineAt (directions tolerance symbol parameter precision : Value)
    (base : Value × Nat) : Except ArgumentFault String := do
  let isBase ← (← base.1.magnitude).holds .atLeast tolerance
  let terms ← if isBase then cellWith .significant precision base.1 else pure ""
  let terms ← ((← directions.items).zipIdx 1).foldlM (addTerm tolerance parameter precision base.2)
    terms
  return numbered (← symbol.display) (base.2 + 1) ++ " = " ++ if terms.isEmpty then "0" else terms

/-- The lines of the parametric layout. -/
def parametricAt (base directions tolerance symbol parameter precision : Value) :
    Except ArgumentFault (List String) := do
  (← base.items).zipIdx.mapM (parametricLineAt directions tolerance symbol parameter precision)

/-! ## Column layout -/

/-- The texts of the entries of an array. -/
def columnTexts (decimals : Value) (column : Bulk) : Except ArgumentFault (List String) := do
  if column.elements.shape.isEmpty then throw (.sort .noAxis)
  (← column.toValue.items).mapM (cellWith .places decimals)

/-- The column layout.  Widths are those of the columns as arrays, while the cells are written as they
were handed over. -/
def columnsAt (base directions freeVariables symbol decimals : Value) :
    Except ArgumentFault String := do
  let d ← base.count
  let label ← symbol.display
  let baseColumn ← base.toBulk
  let directions ← directions.items
  let columns ← directions.mapM toBulk
  let texts ← (baseColumn :: columns).mapM (columnTexts decimals)
  if texts.flatten.isEmpty then throw .emptyTable
  let tags ← (← freeVariables.items).mapM fun n => do return label ++ (← n.display)
  let cellAt (v : Value) (place : Nat) : Except ArgumentFault String := do
    cellWith .places decimals (← v.itemAt (.int place))
  let lines ← (List.range d).mapM fun place => do
    let x ← cellAt base place
    let components ← (directions.take tags.length).mapM (cellAt · place)
    return columnLine label d (Text.widest texts.flatten) tags place x components
  return Text.lines lines

end Display

namespace Mat

def formatAt (a : Mat Float) (precision : Value) : Except ArgumentFault String := do
  return a.format (Decimal.general (← precision.toPrecision 'g'))

end Mat

namespace LinearEquation

/-- The equation as text; the symbol is only looked at when there is a variable to be named. -/
def formatAt (e : LinearEquation Float) (symbol precision : Value) : Except ArgumentFault String := do
  let namesVariables := e.normal.toList.any fun c => !Scalar.isZero c e.tolerance
  let label ← if namesVariables then symbol.display else pure ""
  return e.format (Decimal.general (← precision.toPrecision 'g')) label

end LinearEquation

namespace LinearSystem

def formatAt (s : LinearSystem Float) (precision : Value) : Except ArgumentFault String := do
  return s.format (Decimal.general (← precision.toPrecision 'g'))

end LinearSystem

namespace Value

/-- The components of the vectors that the parts of a general solution are, as arrays. -/
def toArrays (basePoint directions : Value) : Except SortFault (Vec Float × Value) := do
  let base ← basePoint.toVec
  let directions ← directions.toVecs
  return (base, list (directions.map fun v => array (.ofVector v.components)))

/-- The tolerance of a part that is a vector. -/
def toleranceOf : Value → Value
  | vec v => float v.tolerance
  | loose (.vec v) => v.tolerance
  | _ => none

/-- The parametric layout of a general solution. -/
def formatParametric (basePoint directions symbol parameter precision : Value) :
    Except ArgumentFault String := do
  let (base, directions) ← toArrays basePoint directions
  return Text.lines (← Display.parametricAt (array (.ofVector base.components)) directions
    basePoint.toleranceOf symbol parameter precision)

/-- The column layout of a general solution. -/
def formatColumns (basePoint directions freeVariables symbol decimals : Value) :
    Except ArgumentFault String := do
  let (base, directions) ← toArrays basePoint directions
  Display.columnsAt (array (.ofVector base.components)) directions freeVariables symbol decimals

end Value

namespace Solution

def formatReducedAt (s : Solution Float) (precision : Value) : Except ArgumentFault String := do
  return s.formatReduced (Decimal.general (← precision.toPrecision 'g'))

/-- The report for reading under a tolerance of any sort, with the time that a dictionary of times gives;
nothing, or an empty dictionary, has none. -/
def summaryUnder (tolerance : Value) (s : Solution Float) (timing : Value) :
    Except ArgumentFault String := do
  let written ← tolerance.shortText
  let seconds ← if ← timing.isTruthy then
      some <$> (← timing.itemAt (.text "total_seconds")).secondsText
    else pure none
  return s.summaryWith written seconds

/-- The report for reading. -/
def summaryAt (s : Solution Float) (timing : Value) : Except ArgumentFault String :=
  s.summaryUnder (.float s.system.tolerance) timing

end Solution

end LinearSystems
