import LinearSystems.Fault
import LinearSystems.Grid

/-!
# Arrays with any number of axes

Tables have two axes and vectors one; arguments that are read as nested sequences may have any
number, none included.  A `Tensor` keeps the extents of its axes beside its entries, which stand in
row-major order: the places along the last axis are neighbours.
-/

namespace LinearSystems

universe u

/-- The number of entries of an array with these extents. -/
def entryCount (shape : List Nat) : Nat := shape.foldl (· * ·) 1

/-- How far neighbours along each axis lie apart. -/
def strides : List Nat → List Nat
  | [] => []
  | _ :: rest => entryCount rest :: strides rest

@[simp] theorem length_strides (shape : List Nat) : (strides shape).length = shape.length := by
  induction shape with
  | nil => rfl
  | cons n rest ih => simp [strides, ih]

/-- The entries at one place of the first axis, the axes behind it having the given extents. -/
def partAt {α : Type u} (shape : List Nat) (entries : List α) (place : Nat) : List α :=
  (entries.drop (place * entryCount shape)).take (entryCount shape)

/-- A rectangular array of any number of axes. -/
structure Tensor (K : Type u) where
  shape : List Nat
  entries : List K

namespace Tensor

variable {K : Type}

def ofVector {n : Nat} (v : Vector K n) : Tensor K := ⟨[n], v.toList⟩

def ofGrid {m d : Nat} (g : Grid K m d) : Tensor K := ⟨[m, d], g.toList⟩

/-- The entries as a table of the given extents; what is missing is zero. -/
def toGrid [Zero K] (t : Tensor K) (m d : Nat) : Grid K m d :=
  let entries := t.entries.toArray
  Grid.ofFn fun i j => entries.getD (i * d + j) 0

/-- The entries in a row, whatever the shape. -/
def toVector (t : Tensor K) : Vector K t.entries.length := ⟨t.entries.toArray, rfl⟩

/-- As many entries as asked for; what is missing is zero. -/
def toVectorOf [Zero K] (t : Tensor K) (n : Nat) : Vector K n :=
  let entries := t.entries.toArray
  Vector.ofFn fun i => entries.getD i 0

def map {L : Type} (f : K → L) (t : Tensor K) : Tensor L := ⟨t.shape, t.entries.map f⟩

/-- The parts along the first axis. -/
def slices (t : Tensor K) : List (Tensor K) :=
  match t.shape with
  | [] => []
  | n :: rest => (List.range n).map fun i => ⟨rest, partAt rest t.entries i⟩

end Tensor

/-! ## Faults of extents -/

/-- What cannot be done with arrays because of the extents of their axes: combining two of them,
looking something up in one, or storing something in it. -/
inductive ArrayFault where
  /-- Operands with these shapes do not fit each other. -/
  | unequalShapes (shapes : List (List Nat))
  /-- The result has other extents than the array that is to hold it. -/
  | narrowTarget (target result : List Nat)
  /-- An index has more parts than the array has axes. -/
  | tooManyIndices (axes parts : Nat)
  /-- A mask is longer or shorter than the axis that it lies on. -/
  | maskExtent (axis size extent : Nat)
  /-- No place on an axis of this size has this number, counted from either end. -/
  | outOfBounds (index : Int) (axis size : Nat)
  /-- Lists of places on different axes do not fit each other. -/
  | unequalPicks (shapes : List (List Nat))
  /-- An array does not fit the part of another one in which it is to be stored. -/
  | unfitValue (value part : List Nat)
  /-- An array does not fit the places at which it is to be stored. -/
  | unfitPicks (value places : List Nat)
  /-- A mask selects another number of places than there are values. -/
  | unfitMask (values places : Nat)
  /-- What is stored under a mask has more than one axis. -/
  | deepMaskValue (axes : Nat)
  /-- An array stands where one number is to be stored. -/
  | sequenceElement

namespace ArrayFault

def kind : ArrayFault → FaultKind
  | tooManyIndices .. | maskExtent .. | outOfBounds .. | unequalPicks .. => .indexRange
  | unequalShapes .. | narrowTarget .. | unfitValue .. | unfitPicks .. | unfitMask ..
  | deepMaskValue .. | sequenceElement => .illValued

end ArrayFault

end LinearSystems
