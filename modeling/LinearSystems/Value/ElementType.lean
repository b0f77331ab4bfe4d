/-!
# Types of array elements

All elements of an array have one type.  The narrowest type that holds the elements of two types is
found by `ElementType.combine`: numbers widen from truth values to complex ones, numbers and texts meet
in texts, and everything meets in objects.
-/

namespace LinearSystems

/-- Types of array elements, widths in characters or bytes. -/
inductive ElementType where
  | bool
  | int64
  | uint64
  | float
  | complex
  | text (width : Nat)
  | bytes (width : Nat)
  | object
deriving DecidableEq

namespace ElementType

/-- The place of a type of numbers in their order, and how wide its elements are as text. -/
def numeric? : ElementType → Option (Nat × Nat)
  | bool => some (0, 5)
  | int64 => some (1, 21)
  | uint64 => some (2, 20)
  | float => some (3, 32)
  | complex => some (4, 64)
  | _ => none

/-- How wide elements of a type are once they are text. -/
def width : ElementType → Nat
  | text w | bytes w => w
  | t => (t.numeric?.map Prod.snd).getD 0

/-- The narrowest type that holds the elements of both.  Signed and unsigned integers meet in the
floats, numbers and texts in texts, and everything in objects. -/
def combine : ElementType → ElementType → ElementType
  | object, _ | _, object => object
  | int64, uint64 | uint64, int64 => float
  | bytes a, t =>
    match t with
    | text b => text (max a b)
    | t => bytes (max a t.width)
  | t, bytes b =>
    match t with
    | text a => text (max a b)
    | t => bytes (max t.width b)
  | text a, t => text (max a t.width)
  | t, text b => text (max t.width b)
  | s, t =>
    match s.numeric?, t.numeric? with
    | some (a, _), some (b, _) => if a < b then t else s
    | _, _ => object

/-- The elements of such a type are real numbers. -/
def isReal (t : ElementType) : Bool := t.numeric?.any fun n => n.1 < 4

/-- The elements of such a type are texts or bytes. -/
def isText : ElementType → Bool
  | text _ | bytes _ => true
  | _ => false

/-- The elements of such a type are integers or truth values. -/
def isInteger (t : ElementType) : Bool := t.numeric?.any fun n => n.1 < 3

/-- The name of a type of text with its width. -/
def textName? : ElementType → Option String
  | text w => some s!"<U{w}"
  | bytes w => some s!"|S{w}"
  | _ => none

/-- The name of a type, texts with their widths. -/
def name : ElementType → String
  | bool => "bool"
  | int64 => "int64"
  | uint64 => "uint64"
  | float => "float64"
  | complex => "complex128"
  | text w => s!"<U{w}"
  | bytes w => s!"S{w}"
  | object => "O"

/-- The name of the class that a type belongs to, whatever its width. -/
def className : ElementType → String
  | bool => "Bool"
  | int64 => "Int64"
  | uint64 => "UInt64"
  | float => "Float64"
  | complex => "Complex128"
  | text _ => "Str"
  | bytes _ => "Bytes"
  | object => "Object"

/-- The name of a single element of the type that stands outside of an array. -/
def scalarName : ElementType → String
  | float => "float64"
  | text _ => "str_"
  | bytes _ => "bytes_"
  | t => t.name

end ElementType

end LinearSystems
