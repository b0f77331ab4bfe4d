import LinearSystems.Value.Checks
import LinearSystems.Value.Index

/-!
# Operands

Values as the other operand of an operation on a matrix, a vector, an equation or a system.  An
operation asks its operand for one property after the other, and what is no matrix or vector fails
with the first property that it does not have.  So an object that has dimensions is compared by them
before it turns out to be no vector, and an array passes for a matrix as long as only its shape is
looked at.
-/

namespace LinearSystems

namespace Value

def missing {α : Type} (v : Value) (property : String) : Except SortFault α :=
  .error (.missingAttribute v.qualifiedName property)

/-- The matrix that is the other operand of an operation that asks for `property` first. -/
def toMatOperand (property : String) : Value → Except SortFault (Mat Float)
  | mat a => .ok a
  | vec v => .ok v.toMat
  | v => v.missing property

def toEquationOperand : Value → Except SortFault (LinearEquation Float)
  | equation e => .ok e
  | v => v.missing "normal_vector"

/-- The system that is to be solved. -/
def toSystem : Value → Except SortFault (LinearSystem Float)
  | system s => .ok s
  | v => v.missing "A"

/-- The number of dimensions of an object that has one. -/
def dimensions? : Value → Option Value
  | vec v => some (int v.dimensions)
  | equation e => some (int e.dimensions)
  | system s => some (int s.dimensions)
  | parametrization dimensions .. => some dimensions
  | _ => .none

end Value

/-- The operand of an elementwise operation after its shape has been looked at: a matrix, or something
else of that shape. -/
inductive ShapedOperand where
  | matrix (a : Mat Float)
  | other (v : Value) (shape : List Nat)

namespace Value

def toShaped : Value → Except SortFault ShapedOperand
  | mat a => .ok (.matrix a)
  | vec v => .ok (.matrix v.toMat)
  | v => do return .other v (← v.shape)

end Value

/-- The operand of a pairing after its dimensions have been looked at: a vector, or something else of
as many dimensions. -/
inductive PairedOperand where
  | vector (w : Vec Float)
  | other (v : Value)

namespace Mat

/-- The operand has the extents of the matrix. -/
def isSameSizeAs (a : Mat Float) (other : Value) : Except Refusal Bool := do
  match ← (other.toShaped : Except SortFault ShapedOperand) with
  | .matrix b => return a.isSameSize b
  | .other _ shape => return [a.rows, a.columns] == shape

/-- The matrix that is the other operand of an elementwise operation. -/
def operand (a : Mat Float) (operation : Operation) (other : Value) : Except Refusal (Mat Float) := do
  match ← (other.toShaped : Except SortFault ShapedOperand) with
  | .matrix b => return b
  | .other v shape =>
    if [a.rows, a.columns] = shape then (v.missing "elements" : Except SortFault (Mat Float))
    else throw (.argument (.unequalExtents .matrix operation [a.rows, a.columns] shape))

/-- Equality with a value; only matrices of the same size are looked into. -/
def isEqualAt (a : Mat Float) (other : Value) : Except Refusal Bool := do
  match ← (other.toShaped : Except SortFault ShapedOperand) with
  | .matrix b => return a.isEqual b
  | .other v shape =>
    if [a.rows, a.columns] = shape then (v.missing "elements" : Except SortFault Bool)
    else return false

end Mat

namespace Vec

/-- The other operand of an elementwise operation: a vector, or a matrix that is one. -/
def operand (v : Vec Float) (operation : Operation) (other : Value) :
    Except Refusal (Vec Float) := do
  match other with
  | .vec w => return w
  | other =>
    let extents := [v.extents.1, v.extents.2]
    match ← (other.toShaped : Except SortFault ShapedOperand) with
    | .matrix b =>
      match b.toVec? with
      | some w => return w
      | none => throw (.fault (.unequalExtents .vector operation v.extents b.extents))
    | .other w shape =>
      if extents = shape then (w.missing "elements" : Except SortFault (Vec Float))
      else throw (.argument (.unequalExtents .vector operation extents shape))

/-- The other operand of a pairing.  The numbers of dimensions are compared first; where they differ,
the shape is told. -/
def paired? (v : Vec Float) (other : Value) : Except Refusal PairedOperand := do
  match other, other.dimensions? with
  | .vec w, _ => return .vector w
  | other, none => (other.missing "dimensions" : Except SortFault PairedOperand)
  | other, some dimensions =>
    if ← (Value.int v.dimensions).isEqualTo dimensions then return .other other
    (other.missing "shape" : Except SortFault PairedOperand)

/-- The vector whose components are paired with those of this one. -/
def dotOperand (v : Vec Float) (other : Value) : Except Refusal (Vec Float) := do
  match ← v.paired? other with
  | .vector w => return w
  | .other w => (w.missing "elements" : Except SortFault (Vec Float))

def dotAt (v : Vec Float) (other : Value) : Except Refusal Float := do
  v.dot (← v.dotOperand other)

def isOrthogonalAt (v : Vec Float) (other : Value) : Except Refusal Bool := do
  v.isOrthogonal (← v.dotOperand other)

/-- The operand of an operation on two vectors that are not zero.  A zero vector is refused before the
operand has to be a vector. -/
def directionOperand (v : Vec Float) (operation : Operation) (other : Value) :
    Except Refusal (Vec Float) := do
  match ← v.paired? other with
  | .vector w => return w
  | .other w =>
    requireNonzero operation [v]
    (w.missing "is_zero" : Except SortFault (Vec Float))

/-- A zero vector is parallel to everything of its dimensions. -/
def isParallelAt (v : Vec Float) (other : Value) : Except Refusal Bool := do
  match ← v.paired? other with
  | .vector w => v.isParallel w
  | .other w => if v.isZero then return true else (w.missing "is_zero" : Except SortFault Bool)

/-- The operand of an operation in three dimensions; this vector is looked at first. -/
def spaceOperand (v : Vec Float) (operation : Operation) (other : Value) :
    Except Refusal (Vec Float) := do
  if !v.isThreeDimensional then throw (.fault (.notThreeDimensional operation))
  match other with
  | .vec w => return w
  | other => (other.missing "is_3_dimensional" : Except SortFault (Vec Float))

/-- The angle in degrees or in radians, as a value counts as true or not. -/
def angleAt (v : Vec Float) (other degrees : Value) : Except Refusal Float := do
  let w ← v.directionOperand .angle other
  let radians ← v.angle w false
  if ← degrees.isTruthy then v.angle w true else return radians

def projectionAt (v : Vec Float) (onto : Value) : Except Refusal (Vec Float) := do
  v.projection (← v.directionOperand .projection onto)

def orthogonalComponentAt (v : Vec Float) (onto : Value) : Except Refusal (Vec Float) := do
  v.orthogonalComponent (← v.directionOperand .projection onto)

def parallelComponentAt (v : Vec Float) (onto : Value) : Except Refusal (Vec Float) := do
  v.parallelComponent (← v.directionOperand .projection onto)

end Vec

end LinearSystems
