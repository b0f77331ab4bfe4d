import LinearSystems.Display.Arrays
import LinearSystems.Display.Summary
import LinearSystems.Text.Quoted
import LinearSystems.Value.Comparison

/-!
# Values as text

The literal form of a value, as it appears inside messages: texts quoted, sequences between brackets,
numbers with as many digits as it takes to read them back.  Matrices and systems show their tolerance in
it, and equations leave out what is zero within theirs, so an object under a tolerance that is no number
may have no literal form; and a value that holds such an object has none either.

The form for running text differs for texts, arrays, their elements and general solutions.  A message
that shows a value is only as good as the literal form of that value (`Refusal.worded`).
-/

namespace LinearSystems

namespace LinearEquation

/-- The equation with variables `v1`, `v2`, … and six significant digits. -/
def toText (e : LinearEquation Float) : String := e.format Display.short "v"

end LinearEquation

/-! ## Parts of texts -/

namespace Value

/-- The text of a real or imaginary part: a whole number has no point. -/
def partText (x : Float) : String :=
  let s := (Decimal.shortestText x).toList
  String.ofList (if s.drop (s.length - 2) == ['.', '0'] then s.take (s.length - 2) else s)

/-- A complex number; without a real part only the imaginary one is written. -/
def complexText (re im : Float) : String :=
  if re == 0 && re.toBits == 0 then partText im ++ "j"
  else
    let written := partText im
    let joined := if written.toList.head? == some '-' then written else "+" ++ written
    "(" ++ partText re ++ joined ++ "j)"

/-- Items between square brackets. -/
def bracketed (items : List String) : String := "[" ++ ", ".intercalate items ++ "]"

/-- A name with fields between parentheses. -/
def record (name : String) (fields : List (String × String)) : String :=
  name ++ "(" ++ ", ".intercalate (fields.map fun (k, v) => k ++ "=" ++ v) ++ ")"

def boolText (b : Bool) : String := if b then "True" else "False"

def kindText (k : SolutionKind) : String :=
  "<SolutionKind." ++ String.ofList (k.name.toList.map Char.toUpper) ++ ": " ++
    Text.quote k.name ++ ">"

/-- A complex number as its real part and, with a sign, its imaginary part. -/
def complexDigits (write : Float → String) (re im : Float) : String :=
  let imaginary := write im
  let sign := if imaginary.toList.head? == some '-' then "" else "+"
  write re ++ sign ++ imaginary ++ "j"

/-- A value that is a number, in a notation that messages know by its letter. -/
def numberText (letter : Char) (write : Float → String) (v : Value) : Except ArgumentFault String :=
  match v, v.toNumber? with
  | text _, _ | kind _, _ => .error (.textAsNumber letter)
  | complex re im, _ | bulk .complex [] [complex re im], _ => .ok (complexDigits write re im)
  | array ⟨[], [x]⟩, _ => .ok (write x)
  | _, some n => write <$> n.toFloat
  | v, .none => .error (.sort (.notFormattable v.qualifiedName))

/-- A number of seconds to the microsecond. -/
def secondsText : Value → Except ArgumentFault String := numberText 'f' (Decimal.fixed 6)

/-- A number with six significant digits. -/
def shortText : Value → Except ArgumentFault String := numberText 'g' Display.short

end Value

/-! ## Equations and solutions under any tolerance -/

namespace AnyEquation

/-- The terms of the left side with one more behind them.  The name of the variable and the number of
digits are only looked at once the term is known to be written. -/
def addTerm (tolerance : Value) (label : Except ArgumentFault String)
    (digits : Except ArgumentFault Nat) (terms : String) (coefficient : Float × Nat) :
    Except ArgumentFault String := do
  let c := coefficient.1
  if ← (← (Value.wordFloat c).isZero tolerance).isTruthy then return terms
  let name := Display.numbered (← label) coefficient.2
  let isUnit ← (Value.wordFloat (c.abs - 1).abs).holds .less tolerance
  let size ← if isUnit then pure "" else do return Decimal.general (← digits) c.abs
  return terms ++ Piece.sign terms.isEmpty (c < 0) ++ size ++ name

def format (label : Except ArgumentFault String) (digits : Except ArgumentFault Nat)
    (e : AnyEquation) : Except ArgumentFault String := do
  let coefficients := e.normal.components.toList.zipIdx 1
  let terms ← coefficients.foldlM (addTerm e.tolerance label digits) ""
  return (if terms.isEmpty then "0" else terms) ++ " = " ++ Decimal.general (← digits) e.offset

end AnyEquation

namespace Parametrization

/-- The terms of a coordinate with that of one more direction behind them, which the parameter of this
number scales.  A direction may end before the coordinate. -/
def addTermUnder (tolerance : Value) (place : Nat) (terms : String) (direction : Vec Float × Nat) :
    Except ArgumentFault String := do
  match direction.1.toList[place]? with
  | none => throw (.array (.outOfBounds place 0 direction.1.dimensions))
  | some c =>
    if ← (Value.float c.abs).holds .less tolerance then return terms
    let isUnit ← (Value.float (c.abs - 1).abs).holds .less tolerance
    let size := if isUnit then "" else Display.cell Display.short c.abs
    return terms ++ Piece.sign terms.isEmpty (c < 0) ++ size ++ Display.numbered "t" direction.2

/-- The line of one coordinate under a tolerance of any sort. -/
def lineUnder (tolerance : Value) (directions : List (Vec Float)) (base : Float × Nat) :
    Except ArgumentFault String := do
  let isBase ← (Value.wordFloat base.1.abs).holds .atLeast tolerance
  let first := if isBase then Display.cell Display.short base.1 else ""
  let terms ← (directions.zipIdx 1).foldlM (addTermUnder tolerance base.2) first
  return Display.numbered "v" (base.2 + 1) ++ " = " ++ if terms.isEmpty then "0" else terms

end Parametrization

/-! ## Literal forms -/

namespace Value

/-- A general solution by its parts. -/
def parametrizationRecord (dimensions basePoint directions freeVariables : String) : String :=
  record "Parametrization"
    [("dimensions", dimensions), ("base_point", basePoint), ("direction_vectors", directions),
      ("free_variables", freeVariables)]

def parametrizationText (p : Parametrization Float) : String :=
  parametrizationRecord (toString p.dimensions) p.basePoint.describe
    (Display.tuple (p.directions.map Vec.describe)) (Display.tuple (p.freeVariables.map toString))

/-- The fields that a payload and a report have in common. -/
def reducedFields {m d : Nat} (matrixName : String) (r : Report Float m d) :
    List (String × String) :=
  [("kind", kindText r.kind), (matrixName, Display.arrayLiteral (.ofGrid r.rows)),
    ("offsets", Display.arrayLiteral (.ofVector r.offsets)),
    ("pivots", Display.tuple (r.pivots.map fun (i, j) => Display.shape [i.val, j.val]))]

def answerFields {m d : Nat} (r : Report Float m d) : List (String × String) :=
  [("solution", (r.solution.map Vec.describe).getD "None"),
    ("parametrization", (r.parametrization.map parametrizationText).getD "None")]

def smallPivotText {m d : Nat} (p : Pivot m d × Float) : String :=
  Display.tuple [toString p.1.1.val, toString p.1.2.val, Decimal.shortestText p.2]

/-- The value is the truth value that marks a place. -/
def isMarked : Value → Bool
  | bool b => b
  | _ => false

/-- The literal form of an object. -/
def objectText (x : Object Value) : Except ArgumentFault String :=
  match x with
  | .mat a => a.describeWith <$> a.tolerance.shortText
  | .vec v => .ok v.bare.describe
  | .equation e => do
    let written ← AnyEquation.format (.ok "v") (.ok 6) e
    return x.typeName ++ "(" ++ Text.quote written ++ ")"
  | .system s => s.describeWith <$> s.tolerance.shortText
  | .solution m d A b _ _ r =>
    .ok (⟨⟨m, d, A, b, Tolerance.default, []⟩, r⟩ : Solution Float).describe

mutual

/-- The literal form of a value. -/
def literal : Value → Except ArgumentFault String
  | none => .ok "None"
  | bool b => .ok (boolText b)
  | int n => .ok (toString n)
  | float x => .ok (Decimal.shortestText x)
  | wordBool b => .ok ("np." ++ boolText b)
  | wordInt n => .ok ("np.int64(" ++ toString n ++ ")")
  | wordFloat x => .ok ("np.float64(" ++ Decimal.shortestText x ++ ")")
  | complex re im => .ok (complexText re im)
  | text s => .ok (Text.quote s)
  | bytes data => .ok (Text.quoteBytes data)
  | list items => bracketed <$> literals items
  | tuple items => Display.tuple <$> literals items
  | dict entries => do return "\x7b" ++ ", ".intercalate (← literalEntries entries) ++ "\x7d"
  | array t => .ok (Display.arrayLiteral t)
  | bulk .bool shape items => .ok (Display.flagArrayLiteral ⟨shape, items.map isMarked⟩)
  | bulk _ _ items => do return "array(" ++ bracketed (← literals items) ++ ")"
  | kind k => .ok (kindText k)
  | tierOf value name description => do
    return record "ToleranceTier"
      [("value", ← literal value), ("name", ← literal name), ("description", ← literal description)]
  | mat a => .ok a.describe
  | vec v => .ok v.describe
  | equation e => .ok ((equation e).typeName ++ "(" ++ Text.quote e.toText ++ ")")
  | system s => .ok s.describe
  | parametrization dimensions basePoint directions freeVariables => do
    return parametrizationRecord (← literal dimensions) (← literal basePoint) (← literal directions)
      (← literal freeVariables)
  | outcome payload info timing backendName warnings => do
    return record "Result"
      [("params", ← literal payload), ("info", ← literal info), ("timing", ← literal timing),
        ("backend_name", ← literal backendName), ("warnings", ← literal warnings)]
  | params _ _ r =>
    .ok (record "SystemParams"
      (reducedFields "rref" r ++ [("rank", toString r.rank)] ++ answerFields r))
  | solution s => .ok s.describe
  | report _ _ r =>
    .ok (record "EliminationReport"
      (reducedFields "matrix" r ++ answerFields r ++
        [("small_pivots", Display.tuple (r.smallPivots.map smallPivotText))]))
  | elimination .. => .ok "<EliminationEngine>"
  | loose x => objectText x

/-- The literal forms of several values. -/
def literals : List Value → Except ArgumentFault (List String)
  | [] => .ok []
  | v :: rest => do return (← literal v) :: (← literals rest)

/-- The entries of a dictionary, keys quoted. -/
def literalEntries : List (String × Value) → Except ArgumentFault (List String)
  | [] => .ok []
  | (key, v) :: rest => do
    return (Text.quote key ++ ": " ++ (← literal v)) :: (← literalEntries rest)

end

/-- The literal form, if there is one. -/
def shown (v : Value) : String := v.literal.toOption.getD ""

/-! ## Running text -/

/-- The form for running text of everything but general solutions. -/
def plainText (v : Value) : Except ArgumentFault String :=
  match v with
  | text s => .ok s
  | wordBool b => .ok (boolText b)
  | wordInt n => .ok (toString n)
  | wordFloat x => .ok (Decimal.shortestText x)
  | kind k => .ok ("SolutionKind." ++ String.ofList (k.name.toList.map Char.toUpper))
  | array t => .ok (Display.arrayText t)
  | bulk .bool shape items =>
    .ok (Display.flagBrackets " " 0 Display.lineWidth ⟨shape, items.map isMarked⟩)
  | v => v.literal

/-- The vector that a part of a general solution is. -/
def toVec : Value → Except SortFault (Vec Float)
  | vec v => .ok v
  | loose (.vec v) => .ok v.bare
  | v => .error (.missingAttribute v.qualifiedName "to_array")

/-- The vectors that the items of a sequence are. -/
def toVecs (v : Value) : Except SortFault (List (Vec Float)) := do (← v.items).mapM toVec

/-- Refuses directions that end before the base point does.  Coordinates are looked at in turn, so the
shortest direction is the one that is missed first. -/
def requireDirections (base : Vec Float) (directions : List (Vec Float)) :
    Except ArrayFault Unit :=
  match (directions.map Vec.dimensions).min? with
  | some n => if n < base.dimensions then .error (.outOfBounds n 0 n) else .ok ()
  | .none => .ok ()

/-- The form of a value in running text.  That of a general solution is written coordinate by
coordinate, and so it exists only if its parts are vectors and no direction is shorter than the base
point. -/
def display (v : Value) : Except ArgumentFault String :=
  match v with
  | parametrization _ (loose (.vec base)) directions _ => do
    let directions ← directions.toVecs
    return Text.lines
      (← base.bare.toList.zipIdx.mapM (Parametrization.lineUnder base.tolerance directions))
  | parametrization _ basePoint directions _ => do
    let base ← basePoint.toVec
    let directions ← directions.toVecs
    requireDirections base directions
    let lines := Display.parametricLines base.tolerance "v" "t" base.toList
      (directions.map Vec.toList)
    return Text.lines (lines.map (Piece.textOf Display.short))
  | v => v.plainText

end Value

/-! ## Wordings -/

def NestingFault.message : NestingFault → String
  | ragged shape =>
    s!"setting an array element with a sequence. The requested array has an inhomogeneous shape " ++
      s!"after {shape.length} dimensions. The detected shape was {Display.shape shape} + " ++
      "inhomogeneous part."
  | tooDeep =>
    "setting an array element with a sequence. The requested array would exceed the maximum " ++
      "number of dimension of 64."

namespace ArgumentFault

def message : ArgumentFault → String
  | unconvertible argument cause => s!"{argument}: cannot convert to array: {cause.message}"
  | nesting cause => cause.message
  | objectElements argument =>
    s!"{argument}: converted to object dtype, indicating mixed types or non-numeric data"
  | complexElements argument => s!"{argument}: complex values are not supported"
  | textElements argument elementType =>
    s!"{argument}: non-numeric dtype {elementType}, expected numeric data"
  | unknownTier name =>
    let known := (Tier.all : List (Tier Float)).map fun t => Text.quote t.name
    s!"Unknown tolerance tier {name.shown}, expected one of {Value.bracketed known}"
  | truthValueTolerance b => s!"tolerance: expected a number, got {Value.boolText b}"
  | unreadableTolerance v => s!"tolerance: cannot convert {v.shown} to float"
  | notAnIndex argument typeName => s!"{argument}: expected integer index, got {typeName}"
  | notAVector typeName => s!"normal_vector: expected Vector, got {typeName}"
  | notAnEquation position typeName =>
    s!"equations[{position}]: expected LinearEquation, got {typeName}"
  | singleEquation => "equations: expected a sequence of LinearEquation, got a single equation"
  | unequalTolerances written => Display.unequalTolerances written
  | vanishedPivot row column value _ written => Display.vanishedPivot row column value written
  | unknownBackend v => s!"Unknown backend: {v.shown}"
  | unreadableNumeral v => s!"could not convert string to float: {v.shown}"
  | tooLarge => "int too large to convert to float"
  | missingPrecision => "Format specifier missing precision"
  | malformedPrecision specifier typeName =>
    s!"Invalid format specifier '{specifier}' for object of type '{typeName}'"
  | excessivePrecision => "precision too big"
  | overlongPrecision => "Too many decimal digits in format string"
  | textAsNumber letter => s!"Unknown format code '{letter}' for object of type 'str'"
  | emptyTable => "max() arg is an empty sequence"
  | negativeExtent => "negative dimensions are not allowed"
  | notAnExtent v =>
    let written := String.ofList (v.shown.toList.take 100)
    s!"expected a sequence of integers or a single integer, got '{written}'"
  | truthValueExtent => "an integer is required"
  | noExtents => "Use () not None as shape arguments"
  | oversizedExtent => "Maximum allowed dimension exceeded"
  | oversizedArray =>
    "array is too big; `arr.size * arr.dtype.itemsize` is larger than the maximum possible size."
  | unallocatable extents =>
    s!"Unable to allocate {Display.byteSize (entryBytes * entryCount extents)} for an array with " ++
      s!"shape {Display.shape extents} and data type float64"
  | tooManyAxes actual =>
    s!"maximum supported dimension for an ndarray is currently 64, found {actual}"
  | axisCount argument expected actual =>
    s!"{argument}: expected {expected}D array, " ++
      s!"got {actual.length}D with shape {Display.shape actual}"
  | indexRange argument index size =>
    s!"{argument}: index {index} out of range for size {size}"
  | namesAndArrays arrays names =>
    s!"Number of arrays ({arrays}) must match number of names ({names})"
  | missingKey key => key.shown
  | itemRange container =>
    (if container.isEmpty then "" else container ++ " ") ++ "index out of range"
  | oversizedIndex => "cannot fit 'int' into an index-sized integer"
  | itemOfScalar => "invalid index to scalar variable."
  | wordOverflow => "Python int too large to convert to C long"
  | magnitudeOverflow => "absolute value too large"
  | unequalExtents family operation left right =>
    s!"{family.name}.{operation.name}: shapes {Display.shape left} and {Display.shape right} " ++
      "must be equal"
  | array cause => cause.message
  | sort cause => cause.message
  | call cause => cause.message

/-- The value whose literal form the message shows. -/
def shown? : ArgumentFault → Option Value
  | unknownTier v | unreadableTolerance v | unknownBackend v | unreadableNumeral v
  | notAnExtent v => some v
  | _ => none

end ArgumentFault

namespace Refusal

def message : Refusal → String
  | argument cause => cause.message
  | fault cause => cause.message

/-- The refusal that a caller meets: one that shows a value without a literal form gives way to the
failure to write that value. -/
def worded (r : Refusal) : Refusal :=
  match r with
  | argument cause =>
    match cause.shown?.map Value.literal with
    | some (.error failure) => argument failure
    | _ => r
  | fault _ => r

end Refusal

end LinearSystems
