import LinearSystems.Decimal.Numeral
import LinearSystems.Value.Text

/-!
# Arguments

Reading a value as what an operation needs: a float, a tolerance, an index, a number of digits, the
items of a sequence.  Texts are read as numerals where a plain float is asked for, and as names of
tiers where a tolerance is.
-/

namespace LinearSystems

namespace Value

/-- The float that a value denotes. -/
def toFloat (v : Value) : Except ArgumentFault Float :=
  match v with
  | text s => (Decimal.ofText? s).elim (.error (.unreadableNumeral v)) .ok
  | bytes data => (Decimal.ofBytes? data).elim (.error (.unreadableNumeral v)) .ok
  | kind _ => .error (.unreadableNumeral v)
  | array t =>
    match t.shape, t.entries with
    | [], [x] => .ok x
    | _, _ => .error (.sort .notAScalar)
  | bulk _ (_ :: _) _ => .error (.sort .notAScalar)
  | v =>
    match v.toNumber? with
    | some n => n.toFloat
    | .none => .error (.sort (.notANumber v.qualifiedName))

/-- The value as an array whose elements are read as floats one by one: texts are numerals here, and
nothing is undefined. -/
def toFloats (v : Value) : Except ArgumentFault (Tensor Float) := do
  let extents ← v.extents.mapError .nesting
  let entries ← v.elements.mapM fun
    | none => .ok (0.0 / 0.0)
    | element => element.toFloat
  return ⟨extents, entries⟩

/-- The float that a value asks for as a tolerance: nothing is the default, a tier is taken at its word,
a text names a tier, and a number has to be positive and finite.  Of a tier whose value is no float this
is only the nearest one; what such a tier stands for is its value (`Value.resolve`). -/
def toTolerance (v : Value) : Except Refusal Float :=
  match v with
  | none => .ok Tolerance.default
  | tierOf value _ _ => .ok value.nearest
  | text s =>
    match (Tier.ofName? s : Option (Tier Float)) with
    | some t => .ok t.value
    | .none => .error (.argument (.unknownTier v))
  | kind _ => .error (.argument (.unknownTier v))
  | bool b => .error (.argument (.truthValueTolerance b))
  | v =>
    match v.toFloat with
    | .ok x => (Tolerance.require x).mapError .fault
    | .error .tooLarge => .error (.argument .tooLarge)
    | .error _ => .error (.argument (.unreadableTolerance v))

/-- The tolerance that a value asks for.  The value of a tier is handed over as it is, unchecked and of
whatever sort; everything else is read as a float. -/
def resolve (v : Value) : Except Refusal Value :=
  match v with
  | tierOf value _ _ => .ok value
  | v => (float <$> v.toTolerance).mapError Refusal.worded

/-- A value that comes of an object with this tolerance.  If it is an object, it resolves the tolerance
anew. -/
def inherit (tolerance v : Value) : Except Refusal Value :=
  match v.object? with
  | some x => do
    let resolved ← tolerance.resolve
    return ofObject (x.map fun _ => resolved)
  | .none => .ok v

/-- An object that was made with this tolerance argument.  Where the argument is a tier, the object
carries the value of the tier as it is. -/
def carry (tolerance v : Value) : Value :=
  match tolerance with
  | tierOf value _ _ => under value v
  | _ => v

/-- A tier whose value is no float. -/
def isForeignTier : Value → Bool
  | tierOf value _ _ => value.float?.isNone
  | _ => false

/-- The value is a loose object, or a sequence with one among its items. -/
def holdsLoose (v : Value) : Bool := v.isLoose || v.items.toOption.any (·.any isLoose)

/-- The integer that an index is; truth values and floats are none. -/
def toIndex (argument : String) : Value → Except ArgumentFault Int
  | int n | wordInt n => .ok n
  | v => .error (.notAnIndex argument v.typeName)

/-! ## Numbers of digits -/

/-- The largest number of digits that can be asked for. -/
def maxPrecision : Nat := 2147483647

/-- The number of digits that a text asks for, in a notation with the given letter, for a number of the
given sort.  The text has to consist of decimal digits. -/
def readPrecision (typeName : String) (letter : Char) (written : String) :
    Except ArgumentFault Nat :=
  let digits := written.toList.takeWhile fun c => (Text.digitValue? c).isSome
  let n := digits.foldl (fun n c => 10 * n + (Text.digitValue? c).getD 0) 0
  if digits.isEmpty then .error .missingPrecision
  -- A number beyond a machine word is refused before anything behind it is looked at.
  else if wordBound ≤ n then .error .overlongPrecision
  else if digits.length < written.toList.length then
    .error (.malformedPrecision ("." ++ written ++ String.singleton letter) typeName)
  else if maxPrecision < n then .error .excessivePrecision
  else .ok n

/-- The number of digits that a value asks for in the writing of floats. -/
def toPrecision (letter : Char) (v : Value) : Except ArgumentFault Nat := do
  readPrecision "float" letter (← v.display)

/-- The index itself, when the value is an integer in range. -/
def toFin (argument : String) (size : Nat) (v : Value) : Except Refusal (Fin size) := do
  let index ← v.toIndex argument
  (requireIndex argument index size : Except (Fault Float) (Fin size))

end Value

namespace Mat

/-- The entry at a place of unknown sort is within tolerance of the value. -/
def equalsValueAt (a : Mat Float) (value i j : Value) : Except Refusal Value := do
  let i ← i.toFin "i" a.rows
  let j ← j.toFin "j" a.columns
  (Value.float (a.elements.entry i j)).isClose value (.float a.tolerance)

def getRowAt (a : Mat Float) (index : Value) : Except Refusal (Vec Float) := do
  a.getRow (← index.toIndex "row")

def getColumnAt (a : Mat Float) (index : Value) : Except Refusal (Vec Float) := do
  a.getColumn (← index.toIndex "column")

def scaleAt (scalar : Value) (a : Mat Float) : Except Refusal (Mat Float) := do
  scale (← scalar.toFloat) a

end Mat

namespace Vec

def elementAt (v : Vec Float) (position : Value) : Except Refusal Float := do
  v.element (← position.toIndex "position")

/-- The component at a place of unknown sort is within tolerance of the value. -/
def equalsValueAt (v : Vec Float) (value position : Value) : Except Refusal Value := do
  (Value.float (← v.elementAt position)).isClose value (.float v.tolerance)

def scaleAt (scalar : Value) (v : Vec Float) : Except Refusal (Vec Float) := do
  scale (← scalar.toFloat) v

end Vec

end LinearSystems
