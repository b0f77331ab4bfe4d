import LinearSystems.Value.Arguments
import LinearSystems.Value.Equality

/-!
# Requirements on values

The requirements of `LinearSystems.Tolerance`, asked of values of unknown sort: a number of axes, no
empty axis, finite entries, equal lengths, an index below a size.  A requirement asks only for what it
looks at, so a value may fail it for want of a shape before it fails it for its shape.
-/

namespace LinearSystems

namespace Value

/-- The extents of an array or of an element of one. -/
def arrayShape? : Value → Option (List Nat)
  | array t => some t.shape
  | bulk _ shape _ => some shape
  | wordBool _ | wordInt _ | wordFloat _ => some []
  | _ => .none

/-- The extents of what has a shape: arrays, their elements, matrices and vectors. -/
def shape (v : Value) : Except SortFault (List Nat) :=
  match v, v.arrayShape? with
  | _, some extents => .ok extents
  | mat a, _ | loose (.mat a), _ => .ok [a.rows, a.columns]
  | vec w, _ => .ok [w.extents.1, w.extents.2]
  | loose (.vec w), _ => .ok [w.bare.extents.1, w.bare.extents.2]
  | v, .none => .error (.missingAttribute v.qualifiedName "shape")

/-- The extents of what is asked for a property that only arrays and their elements have. -/
def arrayShape (property : String) (v : Value) : Except SortFault (List Nat) :=
  match v.arrayShape? with
  | some extents => .ok extents
  | .none => .error (.missingAttribute v.qualifiedName property)

/-- The value as an array of floats, as it is checked under a name; the name is only written when
something is wrong. -/
def toNamedTensor (v name : Value) : Except ArgumentFault (Tensor Float) :=
  match v.toTensor "" with
  | .ok t => .ok t
  | .error _ => do v.toTensor (← name.display)

/-- Requires a number of axes; anything but that number differs from it. -/
def requireAxes (v expected name : Value) : Except ArgumentFault Unit := do
  let extents ← v.arrayShape "ndim"
  if ← (int extents.length).isEqualTo expected then return
  throw (.axisCount (← name.display) (← expected.display) extents)

/-- Refuses an array of which some axis has length zero. -/
def requireFilled (v name : Value) : Except Refusal Unit := do
  let extents ← v.arrayShape "size"
  if 0 ∈ extents then
    let argument ← name.display
    (requireNonempty argument extents : Except (Fault Float) Unit)

/-- The parts of an element that is a number. -/
def numberParts (v : Value) : List Float := [v.elementComplex.1, v.elementComplex.2]

/-- Refuses undefined and infinite entries.  A complex number is both when its parts are. -/
def requireFiniteEntries (v name : Value) : Except Refusal Unit := do
  let _ ← (v.extents.mapError .nesting : Except ArgumentFault (List Nat))
  if (commonType v.elements).numeric?.isNone then throw (.argument (.sort .elementSort))
  let undefined := v.elements.countP fun x => x.numberParts.any Scalar.isNaN
  let infinite := v.elements.countP fun x => x.numberParts.any Scalar.isInf
  if undefined = 0 ∧ infinite = 0 then return
  throw (.fault (.nonFinite (← name.display) undefined infinite))

/-- The length of the first axis. -/
def firstExtent (v : Value) : Except ArgumentFault Nat := do
  match ← v.shape with
  | [] => throw (.itemRange "tuple")
  | n :: _ => return n

/-- Refuses arrays of different lengths; there has to be one name for each. -/
def requireEqualLengths (names : Value) (arrays : List Value) : Except Refusal Unit := do
  let nameCount ← names.count
  if nameCount ≠ arrays.length then throw (.argument (.namesAndArrays arrays.length nameCount))
  let lengths ← (arrays.mapM firstExtent : Except ArgumentFault (List Nat))
  if lengths.any fun n => lengths.head? != some n then
    let names ← names.items
    let told ← ((names.take lengths.length).mapM display : Except ArgumentFault (List String))
    throw (.fault (.unequalLengths (told.zip lengths)))

/-- The integer that an index is, when it lies from zero up to, but not including, a size that may be
any value. -/
def requireBelow (index size name : Value) : Except ArgumentFault Int := do
  match index with
  | int i | wordInt i =>
    let isBelow ← if 0 ≤ i then index.holds .less size else pure false
    if isBelow then return i else throw (.indexRange (← name.display) i (← size.display))
  | index => throw (.notAnIndex (← name.display) index.typeName)

end Value

end LinearSystems
