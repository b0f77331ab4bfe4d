import LinearSystems.Display.Messages
import LinearSystems.Value.Basic

/-!
# Values of the wrong sort

What goes wrong when a general operation on data (iteration, a length, an item, a comparison, a sum)
meets a value that has no such operation.  These faults know nothing of the argument that the value
was meant for; they name sorts only.
-/

namespace LinearSystems

/-- An operation that the sort of a value does not have. -/
inductive SortFault where
  | notIterable (typeName : String)
  /-- An array without axes has no first axis to iterate over. -/
  | noAxis
  | unsized (typeName : String)
  | unsizedArray
  | notSubscriptable (typeName : String)
  /-- Items of this container are not found under such an index. -/
  | indexSort (container typeName : String)
  | arrayIndexSort
  /-- An array of floats names no places. -/
  | floatIndex
  /-- An array names no place of a sequence. -/
  | arrayAsInteger
  /-- A part of an array cannot begin at such a thing. -/
  | sliceSort
  /-- Whether the elements are undefined cannot be asked. -/
  | elementSort
  | missingAttribute (typeName property : String)
  /-- Fields are named by texts. -/
  | fieldNameSort (typeName : String)
  | negation (typeName : String)
  | magnitude (typeName : String)
  | operands (operator left right : String)
  /-- Something else is added to a text or a sequence. -/
  | joined (left right : String)
  /-- A text or a sequence is taken as often as something of this sort says. -/
  | repetition (typeName : String)
  /-- Truth values in arrays are not subtracted, and none has a negative. -/
  | truthDifference
  | truthNegative
  /-- An operation on arrays with elements of these types; a comparison tells no widths. -/
  | noLoop (operation : String) (isComparison : Bool) (left right : ElementType)
  /-- The result has elements that an array of floats does not take. -/
  | resultCast (operation : String) (type : ElementType)
  | comparison (operator left right : String)
  | notAnInteger (typeName : String)
  | notANumber (typeName : String)
  /-- Only an array without axes is a number. -/
  | notAScalar
  /-- An array of several elements, or of none, is neither true nor false. -/
  | ambiguousTruth (isEmpty : Bool)
  /-- Numbers of this sort cannot be written with a number of digits. -/
  | notFormattable (typeName : String)
  /-- A text is looked for other things than texts. -/
  | foreignPart (typeName : String)
  /-- A byte string is looked for something that is no byte and no byte string. -/
  | foreignBytes (typeName : String)
  | byteRange
  /-- Keys of dictionaries cannot be of this sort. -/
  | unhashable (typeName : String)
  | notAContainer (typeName : String)
  | notUnpackable (typeName : String)
  | tooFewItems (expected actual : Nat)
  | tooManyItems (expected : Nat)

namespace SortFault

def kind : SortFault → FaultKind
  | missingAttribute .. => .missingAttribute
  | arrayIndexSort | floatIndex => .indexRange
  | ambiguousTruth .. | tooFewItems .. | tooManyItems .. | byteRange => .illValued
  | noLoop .. | resultCast .. => .elementTypes
  | _ => .illTyped

/-- A type of elements in a message. -/
def typeText (t : ElementType) : String := s!"dtype('{t.name}')"

/-- The class of a type of elements in a message. -/
def classText (t : ElementType) : String := s!"<class 'numpy.dtypes.{t.className}DType'>"

/-- The phrase for indices of a container. -/
def indexPhrase (container : String) : String :=
  if container = "string" then "integers" else "integers or slices"

def message : SortFault → String
  | notIterable typeName => s!"'{typeName}' object is not iterable"
  | noAxis => "iteration over a 0-d array"
  | unsized typeName => s!"object of type '{typeName}' has no len()"
  | unsizedArray => "len() of unsized object"
  | notSubscriptable typeName => s!"'{typeName}' object is not subscriptable"
  | indexSort container typeName =>
    let found := if container = "string" then s!"'{typeName}'" else typeName
    s!"{container} indices must be {indexPhrase container}, not {found}"
  | arrayIndexSort => Display.notAnIndex
  | floatIndex => "arrays used as indices must be of integer (or boolean) type"
  | arrayAsInteger => "only integer scalar arrays can be converted to a scalar index"
  | sliceSort => "slice indices must be integers or None or have an __index__ method"
  | missingAttribute typeName property =>
    s!"'{typeName}' object has no attribute '{property}'"
  | fieldNameSort typeName => s!"attribute name must be string, not '{typeName}'"
  | negation typeName => s!"bad operand type for unary -: '{typeName}'"
  | magnitude typeName => s!"bad operand type for abs(): '{typeName}'"
  | operands operator left right =>
    s!"unsupported operand type(s) for {operator}: '{left}' and '{right}'"
  | joined left right =>
    if left = "bytes" || left = "numpy.bytes_" then s!"can't concat {right} to {left}"
    else s!"can only concatenate {left} (not \"{right}\") to {left}"
  | repetition typeName => s!"can't multiply sequence by non-int of type '{typeName}'"
  | truthDifference =>
    "numpy boolean subtract, the `-` operator, is not supported, use the bitwise_xor, the `^` " ++
      "operator, or the logical_xor function instead."
  | truthNegative =>
    "The numpy boolean negative, the `-` operator, is not supported, use the `~` operator or the " ++
      "logical_not function instead."
  | noLoop operation isComparison left right =>
    let types := if isComparison then (classText left, classText right)
      else (typeText left, typeText right)
    s!"ufunc '{operation}' did not contain a loop with signature matching types " ++
      s!"({types.1}, {types.2}) -> None"
  | resultCast operation type =>
    s!"Cannot cast ufunc '{operation}' output from {typeText type} to {typeText .float} with " ++
      "casting rule 'same_kind'"
  | comparison operator left right =>
    s!"'{operator}' not supported between instances of '{left}' and '{right}'"
  | notAnInteger typeName => s!"'{typeName}' object cannot be interpreted as an integer"
  | notANumber typeName =>
    s!"float() argument must be a string or a real number, not '{typeName}'"
  | elementSort =>
    "ufunc 'isnan' not supported for the input types, and the inputs could not be safely coerced " ++
      "to any supported types according to the casting rule ''safe''"
  | notAScalar => "only 0-dimensional arrays can be converted to Python scalars"
  | ambiguousTruth true =>
    "The truth value of an empty array is ambiguous. Use `array.size > 0` to check that an array " ++
      "is not empty."
  | ambiguousTruth false =>
    "The truth value of an array with more than one element is ambiguous. Use a.any() or a.all()"
  | notFormattable typeName => s!"unsupported format string passed to {typeName}.__format__"
  | foreignBytes typeName => s!"a bytes-like object is required, not '{typeName}'"
  | byteRange => "byte must be in range(0, 256)"
  | unhashable typeName => s!"unhashable type: '{typeName}'"
  | foreignPart typeName => s!"'in <string>' requires string as left operand, not {typeName}"
  | notAContainer typeName => s!"argument of type '{typeName}' is not iterable"
  | notUnpackable typeName => s!"cannot unpack non-iterable {typeName} object"
  | tooFewItems expected actual =>
    s!"not enough values to unpack (expected {expected}, got {actual})"
  | tooManyItems expected => s!"too many values to unpack (expected {expected})"

end SortFault

end LinearSystems
