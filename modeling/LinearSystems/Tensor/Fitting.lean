import LinearSystems.Tensor.Basic

/-!
# Extents that fit each other

Two arrays are combined entry by entry when their extents fit.  The axes are aligned at the last one;
on each axis the extents are equal, or one of them is one, and what stands there is repeated along the
other.  Axes that only one of the two arrays has are axes of the result.

`jointShape?` is the shape of the result.  It does not depend on the order of the two
(`jointShape?_comm`), and a shape fits itself (`jointShape?_self`).
-/

namespace LinearSystems

universe u

/-- The extent that two aligned axes have together. -/
def jointExtent? (a b : Nat) : Option Nat :=
  if a = b then some a else if a = 1 then some b else if b = 1 then some a else none

theorem jointExtent?_comm (a b : Nat) : jointExtent? a b = jointExtent? b a := by
  unfold jointExtent?
  grind

@[simp] theorem jointExtent?_self (a : Nat) : jointExtent? a a = some a := by
  simp [jointExtent?]

/-- The joint extents of two lists that are aligned at their first axes. -/
def jointExtents? : List Nat → List Nat → Option (List Nat)
  | [], bs => some bs
  | as, [] => some as
  | a :: as, b :: bs => do return (← jointExtent? a b) :: (← jointExtents? as bs)

theorem jointExtents?_comm (as bs : List Nat) : jointExtents? as bs = jointExtents? bs as := by
  induction as generalizing bs with
  | nil => cases bs <;> rfl
  | cons a as ih =>
    cases bs with
    | nil => rfl
    | cons b bs => simp [jointExtents?, jointExtent?_comm a b, ih bs]

theorem jointExtents?_self (as : List Nat) : jointExtents? as as = some as := by
  induction as with
  | nil => rfl
  | cons a as ih => simp [jointExtents?, ih]

/-- The shape of what two arrays of these shapes make together. -/
def jointShape? (s t : List Nat) : Option (List Nat) :=
  (jointExtents? s.reverse t.reverse).map List.reverse

theorem jointShape?_comm (s t : List Nat) : jointShape? s t = jointShape? t s := by
  simp [jointShape?, jointExtents?_comm s.reverse]

@[simp] theorem jointShape?_self (s : List Nat) : jointShape? s s = some s := by
  simp [jointShape?, jointExtents?_self]

/-- The joint shape of several arrays. -/
def jointShapes? (shapes : List (List Nat)) : Option (List Nat) := shapes.foldlM jointShape? []

/-- The entries of an array, repeated along the axes of extent one so that they fill the target. -/
def stretchEntries {α : Type u} : (target shape : List Nat) → List α → List α
  | n :: target, k :: shape, entries =>
    (List.range n).flatMap fun i =>
      stretchEntries target shape (partAt shape entries (if k = 1 then 0 else i))
  | _, _, entries => entries

namespace Tensor

variable {K L M : Type}

/-- The array with extents that its own ones fit. -/
def stretch (target : List Nat) (t : Tensor K) : Tensor K :=
  let aligned := List.replicate (target.length - t.shape.length) 1 ++ t.shape
  ⟨target, stretchEntries target aligned t.entries⟩

/-- Combines two arrays entry by entry. -/
def zipWith (f : K → L → M) (a : Tensor K) (b : Tensor L) : Except ArrayFault (Tensor M) :=
  match jointShape? a.shape b.shape with
  | none => .error (.unequalShapes [a.shape, b.shape])
  | some shape =>
    .ok ⟨shape, List.zipWith f (a.stretch shape).entries (b.stretch shape).entries⟩

/-- Combines two arrays entry by entry into the first, which keeps its extents. -/
def zipInto (f : K → L → K) (a : Tensor K) (b : Tensor L) : Except ArrayFault (Tensor K) :=
  match jointShape? a.shape b.shape with
  | none => .error (.unequalShapes [a.shape, b.shape, a.shape])
  | some shape =>
    if shape = a.shape then .ok ⟨shape, List.zipWith f a.entries (b.stretch shape).entries⟩
    else .error (.narrowTarget a.shape shape)

/-- What is stored in an array has no shape of its own: axes of extent one in front are dropped as
long as there are more axes than in the place where it goes. -/
def dropUnitAxes (rank : Nat) (t : Tensor K) : Tensor K :=
  let surplus := t.shape.length - rank
  let units := (t.shape.takeWhile (· == 1)).length
  ⟨t.shape.drop (min surplus units), t.entries⟩

end Tensor

end LinearSystems
