import LinearSystems.Position
import LinearSystems.Value.Refusal

/-!
# Arrays from nested sequences

Reading a value as a rectangular array of floats.  Lists and tuples are sequences, arrays are
sequences of their slices, and everything else, a text included, is one element.

Two questions are answered apart.  *Shape*: the extents that all elements at a level have in common;
where they differ, or a sequence stands beside an element, the shape ends there and the value is
ragged.  *Element type*: the narrowest type that holds every element, found by combining the types of
the elements in order (`ElementType.combine`).  `Value.toTensor` refuses a ragged value first, then
elements that are no real numbers.
-/

namespace LinearSystems

/-- An array has at most this many axes. -/
def maxAxes : Nat := 64

/-- The extents that agree so far, and whether they end because something did not. -/
structure CommonShape where
  extents : List Nat
  broken : Bool

namespace CommonShape

/-- The extents at the front of both lists. -/
def commonFront : List Nat → List Nat → List Nat
  | a :: as, b :: bs => if a = b then a :: commonFront as bs else []
  | _, _ => []

/-- What two neighbours have in common. -/
def meet (a b : CommonShape) : CommonShape :=
  ⟨commonFront a.extents b.extents, a.broken || b.broken || a.extents != b.extents⟩

/-- The shape of an array where only so many axes are left; what goes beyond breaks it. -/
def ofArray (axesLeft : Nat) (shape : List Nat) : CommonShape :=
  ⟨shape.take axesLeft, decide (axesLeft < shape.length)⟩

/-- The shape of a sequence from the shapes of its items. -/
def ofItems : List CommonShape → CommonShape
  | [] => ⟨[0], false⟩
  | first :: rest =>
    let shared := rest.foldl meet first
    ⟨(rest.length + 1) :: shared.extents, shared.broken⟩

end CommonShape

namespace Value

/-- The type of an element that is no sequence. -/
def elementType : Value → ElementType
  | bool _ => .bool
  | wordBool _ => .bool
  | int n | wordInt n =>
    if fitsWord n then .int64
    else if 0 ≤ n ∧ n < 2 * wordBound then .uint64
    else .object
  | array _ | float _ | wordFloat _ => .float
  | complex _ _ => .complex
  | text s => .text (max 1 s.length)
  | bytes data => .bytes (max 1 data.length)
  | kind k => .text k.name.length
  | bulk type _ _ => type
  | _ => .object

/-- The float nearest to an element that is a number. -/
def elementFloat : Value → Float
  | bool b | wordBool b => if b then 1.0 else 0.0
  | int n | wordInt n => Float.ofInt n
  | float x | wordFloat x => x
  | _ => 0.0

mutual

/-- The shape of a value below the given number of axes. -/
def commonShape (axesAbove : Nat) : Value → CommonShape
  | list items | tuple items =>
    if axesAbove < maxAxes then .ofItems (commonShapes (axesAbove + 1) items) else ⟨[], true⟩
  | array t => .ofArray (maxAxes - axesAbove) t.shape
  | bulk _ shape _ => .ofArray (maxAxes - axesAbove) shape
  | _ => ⟨[], false⟩

def commonShapes (axesAbove : Nat) : List Value → List CommonShape
  | [] => []
  | v :: rest => commonShape axesAbove v :: commonShapes axesAbove rest

end

mutual

/-- The elements of a value in row-major order. -/
def elements : Value → List Value
  | list items | tuple items => elementsOf items
  | array t => t.entries.map wordFloat
  | bulk _ _ items => items
  | v => [v]

def elementsOf : List Value → List Value
  | [] => []
  | v :: rest => elements v ++ elementsOf rest

end

/-- The type that holds all elements; floats when there are none. -/
def commonType : List Value → ElementType
  | [] => .float
  | first :: rest => rest.foldl (fun t v => t.combine v.elementType) first.elementType

/-- The extents of a value in which nested sequences of one level have one length. -/
def extents (v : Value) : Except NestingFault (List Nat) :=
  let shape := v.commonShape 0
  if !shape.broken then .ok shape.extents
  -- Only what lies below the last axis can break a shape that already has all of them.
  else .error (if shape.extents.length = maxAxes then .tooDeep else .ragged shape.extents)

/-- The value as an array of floats, every element of which has to be a real number. -/
def toTensor (argument : String) (v : Value) : Except ArgumentFault (Tensor Float) := do
  let extents ← v.extents.mapError (.unconvertible argument)
  let elements := v.elements
  match commonType elements with
  | .object => throw (.objectElements argument)
  | .complex => throw (.complexElements argument)
  | t =>
    match t.textName? with
    | .some name => throw (.textElements argument name)
    | .none => return ⟨extents, elements.map elementFloat⟩

end Value

end LinearSystems
