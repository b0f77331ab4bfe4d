import LinearSystems.Tensor.Fitting
import LinearSystems.Value.Array

/-!
# Values as operands on arrays

An operation on arrays takes any value: nested sequences are arrays, and what is no sequence is an
array without axes.  `Value.toBulk` reads a value so, all elements brought to one type, and
`Bulk.toValue` is the value that such an array is.
-/

namespace LinearSystems

namespace Value

/-- The integer that an element is, truth values being one and zero. -/
def elementInt : Value → Int
  | bool b | wordBool b => if b then 1 else 0
  | int n | wordInt n => n
  | _ => 0

/-- The complex number nearest to an element that is a number. -/
def elementComplex : Value → Float × Float
  | complex re im => (re, im)
  | v => (v.elementFloat, 0)

end Value

/-- An element as it stands in an array of a type that holds it. -/
def ElementType.store (type : ElementType) (v : Value) : Value :=
  match type with
  | .bool => .bool (v.elementInt != 0)
  | .int64 | .uint64 => .int v.elementInt
  | .float => .float v.elementFloat
  | .complex => .complex v.elementComplex.1 v.elementComplex.2
  | .text _ | .bytes _ | .object => v

/-- An array with elements of one type.  A *plain* one is a number that does not come from an array:
it takes on the type of the array that it meets. -/
structure Bulk where
  type : ElementType
  elements : Tensor Value
  isPlain : Bool

namespace Bulk

def toValue (b : Bulk) : Value :=
  match b.type, b.elements.shape, b.elements.entries with
  | .object, [], [x] => x
  | .bool, [], [.bool p] => .wordBool p
  | .int64, [], [.int n] => .wordInt n
  | .float, [], [.float x] => .wordFloat x
  | .float, shape, items => .array ⟨shape, items.map Value.elementFloat⟩
  | type, shape, items => .bulk type shape items

/-- The elements of an array as those of a wider type. -/
def widen (type : ElementType) (b : Bulk) : Tensor Value := b.elements.map type.store

end Bulk

namespace Value

/-- A plain number: an integer, a float or a complex number that does not come from an array. -/
def isPlainNumber : Value → Bool
  | int _ | float _ | complex .. => true
  | _ => false

def toBulk (v : Value) : Except ArgumentFault Bulk := do
  let extents ← v.extents.mapError .nesting
  let elements := v.elements
  let type := commonType elements
  return ⟨type, ⟨extents, elements.map type.store⟩, v.isPlainNumber⟩

/-- An array of floats, or its only element. -/
def ofTensor (t : Tensor Float) : Value :=
  match t.shape, t.entries with
  | [], [x] => wordFloat x
  | _, _ => array t

end Value

end LinearSystems
