import LinearSystems.Tensor.Selection
import LinearSystems.Value.Equality

/-!
# Indices of unknown sort

What a value means as an index.  Of an array, a tuple is an index in several parts and anything else
one part: an integer names a place, nothing makes a new axis, a truth value is a flag, and a sequence
of integers or of truth values picks or marks places.  Of a text or a plain sequence only an integer
is an index, and of a dictionary a key.
-/

namespace LinearSystems

namespace Value

/-- The integer that counts as an index: truth values do, floats do not. -/
def toInteger? : Value → Option Int
  | bool b => some (if b then 1 else 0)
  | int n | wordInt n => some n
  | _ => .none

/-- The integer at which a walk over rows or columns starts. -/
def toStart (v : Value) : Except SortFault Int :=
  match v, v.toInteger? with
  | _, some i => .ok i
  | array _, _ | bulk _ (_ :: _) _, _ => .error .arrayAsInteger
  | v, .none => .error (.notAnInteger v.qualifiedName)

/-- The first place of the part of an axis that begins at a value; nothing begins it at the front. -/
def toPartStart (size : Nat) (v : Value) : Except SortFault Nat :=
  match v, v.toInteger? with
  | none, _ => .ok 0
  | _, some i => .ok (startPlace size i)
  | array _, _ | bulk _ (_ :: _) _, _ => .error .arrayAsInteger
  | _, .none => .error .sliceSort

/-- The integer that names a place of an array, which has to fit a machine word. -/
def toPlace (n : Int) : Except ArgumentFault Int :=
  if fitsWord n then .ok n
  else if 0 ≤ n ∧ n < 2 * wordBound then .error .wordOverflow
  else .error (.sort .arrayIndexSort)

/-! ## Indices of arrays -/

/-- The part of an index that a sequence is. -/
def toPicks (v : Value) : Except ArgumentFault IndexPart := do
  let b ← v.toBulk
  let ⟨shape, items⟩ := b.elements
  match b.type with
  | .int64 | .uint64 => return .picks shape (items.map fun x => wrapWord x.elementInt)
  | .bool => return .mask shape (items.map isMarked)
  | _ => if items.isEmpty then return .picks shape [] else throw (.sort .arrayIndexSort)

/-- The part of an index that a value is. -/
def toIndexPart (v : Value) : Except ArgumentFault IndexPart :=
  match v with
  | none => .ok .newAxis
  | bool b | wordBool b => .ok (.flag b)
  | int n | wordInt n => do return .place (← toPlace n)
  | array _ => .error (.sort .floatIndex)
  | list _ | tuple _ | bulk .. => v.toPicks
  | _ => .error (.sort .arrayIndexSort)

/-- The parts of an index. -/
def toIndexParts (v : Value) : Except ArgumentFault (List IndexPart) :=
  match v with
  | tuple parts => parts.mapM toIndexPart
  | v => do return [← v.toIndexPart]

end Value

namespace Tensor

variable {K : Type}

/-- What an index of unknown sort means in an array. -/
def selectionAt (t : Tensor K) (index : Value) : Except ArgumentFault Selection := do
  Selection.ofParts t.shape (← index.toIndexParts)

def readAt (t : Tensor K) (index : Value) : Except ArgumentFault (Tensor K) := do
  return t.select (← t.selectionAt index)

def storeAt (t : Tensor K) (index : Value) (value : Tensor K) :
    Except ArgumentFault (Tensor K) := do
  t.store (← t.selectionAt index) value

end Tensor

namespace Value

/-! ## Items -/

/-- What messages call the items of a sequence and its indices. -/
def containerName : Value → Option (String × String)
  | list _ => some ("list", "list")
  | tuple _ => some ("tuple", "tuple")
  | text _ | kind _ => some ("string", "string")
  | bytes _ => some ("", "byte")
  | _ => .none

/-- The item of a sequence at a place from either end. -/
def itemOfSequence (v : Value) (container indices : String) (index : Value) :
    Except ArgumentFault Value :=
  match index, index.toInteger? with
  | _, some i => do
    if !fitsWord i then throw .oversizedIndex
    let items ← v.items
    match position? items.length i with
    | some place => return items.get place
    | .none => throw (.itemRange container)
  | array _, _ | bulk _ (_ :: _) _, _ => .error (.sort .arrayAsInteger)
  | index, .none => .error (.sort (.indexSort indices index.qualifiedName))

/-- The entry or the array under an index of an array. -/
def itemOfArray (b : Bulk) (index : Value) : Except ArgumentFault Value := do
  return Bulk.toValue { b with elements := ← b.elements.readAt index }

/-- The item under an index: of a sequence or an array by its place from either end, of a dictionary
by its key. -/
def itemAt (v index : Value) : Except ArgumentFault Value := do
  match v, v.containerName with
  | dict entries, _ =>
    match ← lookUp? entries index with
    | some x => return x
    | .none => throw (.missingKey index)
  | array _, _ | bulk _ (_ :: _) _, _ => itemOfArray (← v.toBulk) index
  | wordBool _, _ | wordInt _, _ | wordFloat _, _ =>
    -- Whatever is wrong with an index of a single number is told in the same words.
    (itemOfArray (← v.toBulk) index).mapError fun _ => .itemOfScalar
  | v, some (container, indices) => v.itemOfSequence container indices index
  | v, .none => throw (.sort (.notSubscriptable v.typeName))

end Value

end LinearSystems
