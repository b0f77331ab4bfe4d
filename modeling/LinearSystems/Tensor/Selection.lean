import LinearSystems.Position
import LinearSystems.Tensor.Fitting

/-!
# Selections

An index of an array is a list of parts, one after the other for its axes.  A part names one *place*,
*picks* several places in an arrangement of their own, lies as a *mask* on one or more axes and picks
the places that it marks, or makes a new axis.  A *flag* stands on no axis at all and picks everything
or nothing.  Axes that no part looks at are kept whole.

All picks of an index walk together: their arrangements have to fit each other, and the joint
arrangement takes the place of the axes that they look at.  It stands where the first of them stood,
or in front when there are kept axes between them.  A place counts as a pick where there are any.

`Selection.ofParts` finds the entries that an index means, or the first thing that is wrong with it:
too many parts, a mask of the wrong length, a place out of bounds, picks that do not fit, a pick out
of bounds.
-/

namespace LinearSystems

/-- A part of an index. -/
inductive IndexPart where
  | newAxis
  | place (index : Int)
  | flag (b : Bool)
  | picks (shape : List Nat) (indices : List Int)
  | mask (shape : List Nat) (marks : List Bool)

namespace IndexPart

/-- The number of axes that a part looks at. -/
def rank : IndexPart → Nat
  | newAxis | flag _ => 0
  | place _ | picks .. => 1
  | mask shape _ => shape.length

end IndexPart

/-- A part of an index on the axis that it looks at.  Picks that come from a mask know the extent of
the mask there. -/
inductive AxisPart where
  | newAxis
  | whole (size stride : Nat)
  | place (axis size stride : Nat) (index : Int)
  | picks (axis size stride : Nat) (maskExtent : Option Nat) (shape : List Nat)
    (indices : List Int)

namespace AxisPart

/-- The picks along each axis of a mask: the coordinates of the places that are marked. -/
def ofMask (axis : Nat) (sizes : List (Nat × Nat)) (shape : List Nat) (marks : List Bool) :
    List AxisPart :=
  let marked := marks.zipIdx.filterMap fun (b, n) => if b then some n else none
  ((shape.zip (strides shape)).zip sizes).zipIdx.map fun (((extent, step), (size, stride)), k) =>
    .picks (axis + k) size stride (some extent) [marked.length]
      (marked.map fun n => Int.ofNat (n / step % extent))

/-- Gives every part its axis.  `sizes` holds the extents and strides of the axes from `axis` on. -/
def assign : Nat → List (Nat × Nat) → List IndexPart → List AxisPart
  | _, sizes, [] => sizes.map fun (size, stride) => .whole size stride
  | axis, sizes, .newAxis :: parts => .newAxis :: assign axis sizes parts
  | axis, sizes, .flag b :: parts =>
    let count := if b then 1 else 0
    .picks axis 1 0 none [count] (List.replicate count 0) :: assign axis sizes parts
  | axis, sizes, .mask shape marks :: parts =>
    ofMask axis sizes shape marks ++
      assign (axis + shape.length) (sizes.drop shape.length) parts
  | axis, (size, stride) :: sizes, .place i :: parts =>
    .place axis size stride i :: assign (axis + 1) sizes parts
  | axis, (size, stride) :: sizes, .picks shape indices :: parts =>
    .picks axis size stride none shape indices :: assign (axis + 1) sizes parts
  | _, [], _ => []

/-- The extent and the offsets of an axis of the result, for the parts that make one. -/
def axis? : AxisPart → Option (Nat × List Nat)
  | newAxis => some (1, [0])
  | whole size stride => some (size, (List.range size).map (· * stride))
  | place .. | picks .. => none

def isPick : AxisPart → Bool
  | picks .. => true
  | _ => false

/-- Refuses a mask that is not as long as its axis; an empty one fits everywhere. -/
def requireMask : AxisPart → Except ArrayFault Unit
  | picks axis size _ (some extent) _ _ =>
    if extent = 0 ∨ extent = size then .ok () else .error (.maskExtent axis size extent)
  | _ => .ok ()

/-- The offset of the place that a number means. -/
def offsetOf (axis size stride : Nat) (index : Int) : Except ArrayFault Nat :=
  match position? size index with
  | some i => .ok (i * stride)
  | none => .error (.outOfBounds index axis size)

/-- The offset that a place adds to everything. -/
def placeOffset : AxisPart → Except ArrayFault Nat
  | place axis size stride i => offsetOf axis size stride i
  | _ => .ok 0

/-- The arrangement of some picks. -/
def pickShape? : AxisPart → Option (List Nat)
  | picks _ _ _ _ shape _ => some shape
  | _ => none

/-- The offsets of picks in the joint arrangement. -/
def pickOffsets (joint : List Nat) : AxisPart → Except ArrayFault (List Nat)
  | picks axis size stride _ shape indices => do
    let offsets ← indices.mapM (offsetOf axis size stride)
    return ((⟨shape, offsets⟩ : Tensor Nat).stretch joint).entries
  | _ => .ok (List.replicate (entryCount joint) 0)

end AxisPart

/-- How the entries of a selection are meant: one entry, a part of the array, entries that were picked,
or the entries under a mask of the array's own shape. -/
inductive SelectionManner where
  | element
  | part
  | picked
  | masked
deriving DecidableEq

/-- Entries of an array by their places in row-major order, and the shape that they make. -/
structure Selection where
  shape : List Nat
  places : List Nat
  manner : SelectionManner

namespace Selection

/-- The sums of one offset from each list, the last list running fastest. -/
def offsetSums : List (List Nat) → List Nat
  | [] => [0]
  | offsets :: rest => offsets.flatMap fun x => (offsetSums rest).map (x + ·)

/-- The parts before the joint arrangement and those behind it. -/
def splitAtPicks (parts : List AxisPart) : List AxisPart × List AxisPart :=
  let isKept (p : AxisPart) : Bool := p.axis?.isSome
  let front := parts.takeWhile isKept
  let rest := parts.drop front.length
  let behind := rest.dropWhile fun p => !isKept p
  -- Kept axes between picks send the joint arrangement to the front.
  if behind.all isKept then (front, behind) else ([], parts)

/-- The manner of a selection without faults. -/
def mannerOf (shape : List Nat) (parts : List IndexPart) (axisParts : List AxisPart) :
    SelectionManner :=
  match parts with
  | [.mask extents _] => if extents = shape then .masked else .picked
  | _ =>
    if axisParts.any AxisPart.isPick then .picked
    else if axisParts.any fun p => p.axis?.isSome then .part
    else .element

/-- The entries of an array of some shape that an index means. -/
def ofParts (shape : List Nat) (parts : List IndexPart) : Except ArrayFault Selection := do
  let asked := parts.foldl (fun n part => n + part.rank) 0
  if shape.length < asked then throw (.tooManyIndices shape.length asked)
  let axisParts := AxisPart.assign 0 (shape.zip (strides shape)) parts
  axisParts.forM AxisPart.requireMask
  let base := (← axisParts.mapM AxisPart.placeOffset).foldl (· + ·) 0
  let pickShapes := axisParts.filterMap AxisPart.pickShape?
  let joint ← match jointShapes? pickShapes with
    | some joint => pure joint
    | none => throw (.unequalPicks pickShapes)
  -- Picks that come to nothing are not looked at.
  let picked ←
    if entryCount joint = 0 then pure []
    else axisParts.mapM (AxisPart.pickOffsets joint)
  let jointOffsets := picked.foldl (List.zipWith (· + ·)) (List.replicate (entryCount joint) base)
  let (front, behind) := splitAtPicks axisParts
  let frontAxes := front.filterMap AxisPart.axis?
  let behindAxes := behind.filterMap AxisPart.axis?
  return {
    shape := frontAxes.map Prod.fst ++ joint ++ behindAxes.map Prod.fst
    places := offsetSums (frontAxes.map Prod.snd ++ jointOffsets :: behindAxes.map Prod.snd)
    manner := mannerOf shape parts axisParts }

end Selection

namespace Tensor

variable {K : Type}

/-- The entries of a selection. -/
def select (t : Tensor K) (s : Selection) : Tensor K :=
  let entries := t.entries.toArray
  ⟨s.shape, s.places.filterMap fun place => entries[place]?⟩

/-- Overwrites entries; of two values for one place the later stays. -/
def overwrite (t : Tensor K) (places : List Nat) (values : List K) : Tensor K :=
  let written := (places.zip values).foldl (fun entries (place, x) => entries.setIfInBounds place x)
    t.entries.toArray
  ⟨t.shape, written.toList⟩

/-- Stores an array in the entries of a selection, which it has to fit. -/
def store (t : Tensor K) (s : Selection) (value : Tensor K) : Except ArrayFault (Tensor K) :=
  match s.manner with
  | .element =>
    if value.shape.isEmpty then .ok (t.overwrite s.places value.entries) else .error .sequenceElement
  | .masked =>
    match value.shape with
    | [] | [1] => .ok (t.overwrite s.places (value.stretch s.shape).entries)
    | [n] =>
      if n = s.places.length then .ok (t.overwrite s.places value.entries)
      else .error (.unfitMask n s.places.length)
    | shape => .error (.deepMaskValue shape.length)
  | manner =>
    let value := value.dropUnitAxes s.shape.length
    if jointShape? value.shape s.shape = some s.shape then
      .ok (t.overwrite s.places (value.stretch s.shape).entries)
    else if manner = .part then .error (.unfitValue value.shape s.shape)
    else .error (.unfitPicks value.shape s.shape)

end Tensor

end LinearSystems
