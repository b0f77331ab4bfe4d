import LinearSystems.Value.Signature
import LinearSystems.Value.Sort

/-!
# Refusals

Why a value of unknown sort is not accepted as an argument (`ArgumentFault`), and the failure of an
operation that takes such values (`Refusal`): either an argument was no good, or the typed operation
behind it has a fault of its own.  The wording of both is in `LinearSystems.Value.Text`, since a message
may show the value that was refused.
-/

namespace LinearSystems

/-- The bytes that an entry of an array takes up. -/
def entryBytes : Nat := 8

/-- Why nested sequences have no shape. -/
inductive NestingFault where
  /-- Their lengths agree in the listed axes only. -/
  | ragged (shape : List Nat)
  /-- They are nested deeper than an array can have axes. -/
  | tooDeep

/-- A cause of failure that lies in the sort or the reading of an argument. -/
inductive ArgumentFault where
  /-- Nested sequences that make no array, in an argument that is checked. -/
  | unconvertible (argument : String) (cause : NestingFault)
  /-- Nested sequences that make no array. -/
  | nesting (cause : NestingFault)
  /-- Elements that are no numbers and no text either. -/
  | objectElements (argument : String)
  | complexElements (argument : String)
  /-- Elements that are text; `elementType` names their type with its width. -/
  | textElements (argument elementType : String)
  | unknownTier (name : Value)
  | truthValueTolerance (b : Bool)
  | unreadableTolerance (v : Value)
  | notAnIndex (argument typeName : String)
  | notAVector (typeName : String)
  | notAnEquation (position : Nat) (typeName : String)
  | singleEquation
  /-- Equations whose tolerances are written so. -/
  | unequalTolerances (written : List String)
  /-- A pivot reads as zero at the moment it is scaled to one, within a tolerance of any sort. -/
  | vanishedPivot (row column : Nat) (value : Float) (tolerance : Value) (written : String)
  | unknownBackend (v : Value)
  | unreadableNumeral (v : Value)
  | tooLarge
  | missingPrecision
  /-- `typeName` is the sort of the number that was to be written. -/
  | malformedPrecision (specifier typeName : String)
  | excessivePrecision
  /-- A number of digits that does not even fit a machine word. -/
  | overlongPrecision
  /-- A text is to be written as a number; the letter stands for a notation. -/
  | textAsNumber (letter : Char)
  | emptyTable
  | negativeExtent
  | notAnExtent (v : Value)
  | truthValueExtent
  | noExtents
  /-- An extent that does not fit a machine word. -/
  | oversizedExtent
  /-- Extents whose product does not fit a machine word. -/
  | oversizedArray
  /-- An array of these extents takes up more room than there is. -/
  | unallocatable (extents : List Nat)
  | tooManyAxes (actual : Nat)
  /-- An array has another number of axes than the argument asks for. -/
  | axisCount (argument : String) (expected : String) (shape : List Nat)
  /-- An index that does not lie below a size of unknown sort. -/
  | indexRange (argument : String) (index : Int) (size : String)
  | namesAndArrays (arrays names : Nat)
  | missingKey (key : Value)
  /-- No item of this container has the number that was asked for. -/
  | itemRange (container : String)
  /-- An index that no machine word holds. -/
  | oversizedIndex
  /-- A number has no items. -/
  | itemOfScalar
  /-- An index of an array that no machine word holds. -/
  | wordOverflow
  /-- The magnitude of a complex number beyond the range of floats. -/
  | magnitudeOverflow
  /-- An elementwise operation with an operand of any number of axes. -/
  | unequalExtents (family : Family) (operation : Operation) (left right : List Nat)
  | array (cause : ArrayFault)
  | sort (cause : SortFault)
  | call (cause : CallFault)

namespace ArgumentFault

def kind : ArgumentFault → FaultKind
  | unconvertible .. | objectElements .. | complexElements .. | textElements ..
  | unknownTier .. | truthValueTolerance .. | unreadableTolerance .. | notAnIndex ..
  | notAVector .. | notAnEquation .. | singleEquation | unequalTolerances .. | unknownBackend ..
  | indexRange .. =>
    .own .validation
  | vanishedPivot .. => .own .invariantViolation
  | axisCount .. => .own .dimension
  | unequalExtents .. => .own .shapeMismatch
  | notAnExtent .. | truthValueExtent | noExtents | call .. => .illTyped
  | unreadableNumeral .. | missingPrecision | malformedPrecision .. | excessivePrecision
  | overlongPrecision | textAsNumber .. | emptyTable | negativeExtent | oversizedExtent
  | oversizedArray | tooManyAxes .. | nesting .. | namesAndArrays .. => .illValued
  | tooLarge | wordOverflow | magnitudeOverflow => .overflow
  | unallocatable .. => .memory
  | missingKey .. => .missingKey
  | itemRange .. | oversizedIndex | itemOfScalar => .indexRange
  | array cause => cause.kind
  | sort cause => cause.kind

end ArgumentFault

/-- The failure of an operation on values of unknown sort. -/
inductive Refusal where
  | argument (cause : ArgumentFault)
  | fault (cause : Fault Float)

namespace Refusal

def kind : Refusal → FaultKind
  | argument cause => cause.kind
  | fault cause => cause.kind

/-- The operation and the two operand shapes that a shape mismatch reports. -/
def operands : Refusal → Option (Operation × List Nat × List Nat)
  | argument (.unequalExtents _ operation left right) => some (operation, left, right)
  | argument _ => none
  | fault cause => cause.operands

end Refusal

/-- A result of typed operations inside an operation on values. -/
instance : MonadLift (Except (Fault Float)) (Except Refusal) where
  monadLift result := result.mapError Refusal.fault

/-- A result of a general operation on data inside the reading of an argument. -/
instance : MonadLift (Except SortFault) (Except ArgumentFault) where
  monadLift result := result.mapError ArgumentFault.sort

/-- A result of an operation on arrays inside the reading of an argument. -/
instance : MonadLift (Except ArrayFault) (Except ArgumentFault) where
  monadLift result := result.mapError ArgumentFault.array

/-- The check of a call before its arguments are read. -/
instance : MonadLift (Except CallFault) (Except ArgumentFault) where
  monadLift result := result.mapError ArgumentFault.call

/-- A result of reading arguments inside an operation on values. -/
instance : MonadLift (Except ArgumentFault) (Except Refusal) where
  monadLift result := result.mapError Refusal.argument

end LinearSystems
