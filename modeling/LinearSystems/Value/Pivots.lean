import LinearSystems.Value.Construct

/-!
# Pivots of values

The search for pivots where the table, the place to start from and the tolerance are of unknown sort,
and the parametrization of a table by them.  Each of them is read when the search first needs it: a
search that is over before it looks at a row accepts anything as a table with two extents, and one
that meets no entry accepts anything as a tolerance.

A tolerance may be an array.  A row is then compared with all of it at once, and the first answer that
holds, in row-major order, counts as the column.
-/

namespace LinearSystems

namespace Value

/-- Both extents of a table. -/
def tableExtents (v : Value) : Except SortFault (Nat × Nat) := do
  match ← v.shape with
  | [m, d] => return (m, d)
  | shape => throw (if shape.length < 2 then .tooFewItems 2 shape.length else .tooManyItems 2)

/-- The entries of a table whose rows can be looked into. -/
def tableEntries (v : Value) : Except SortFault (Tensor Float) :=
  match v with
  | array t => .ok t
  | bulk _ shape items => .ok ⟨shape, items.map elementFloat⟩
  | v => .error (.notSubscriptable v.typeName)

/-- The rows or columns from one on, as a walk meets them.  A walk that starts before all of them ends
with its first step, since nothing is there. -/
def walkFrom (size : Nat) (start : Int) : List Int :=
  if start < -(size : Int) then [start]
  else (List.range (size - start).toNat).map fun k : Nat => start + k

/-- The first entry that reaches a tolerance. -/
def leadingAt (entries : List Float) (tolerance : Value) : Except ArgumentFault (Option Nat) := do
  let magnitudes := array ⟨[entries.length], entries.map Float.abs⟩
  let flags := (← magnitudes.compare .atLeast tolerance).elements
  return (flags.zipIdx.find? fun (flag, _) => flag.isMarked).map Prod.snd

/-- The part of a row of a table from a column on. -/
def rowFrom (table : Value) (row : Int) (column : Value) : Except ArgumentFault (List Float) := do
  let t ← table.tableEntries
  let (m, d) ← table.tableExtents
  let i ← toPlace row
  match position? m i with
  | some i => return (partAt [d] t.entries i).drop (← column.toPartStart d)
  | .none => throw (.array (.outOfBounds i 0 m))

/-- The first pivot in the listed rows at or after a column, later rows starting at the same one. -/
def pivotInRows (table column tolerance : Value) :
    List Int → Except ArgumentFault (Option (Int × Value))
  | [] => .ok .none
  | row :: rows => do
    match ← leadingAt (← table.rowFrom row column) tolerance with
    | some k => return some (row, ← column.combine .add (int k))
    | .none => table.pivotInRows column tolerance rows

/-- The first pivot at or after a place.  Right of the last column there is nothing to look for, and
the row is not looked at. -/
def nextPivot (table row column tolerance : Value) :
    Except ArgumentFault (Option (Int × Value)) := do
  let (m, d) ← table.tableExtents
  if ← column.holds .atLeast (int d) then return .none
  table.pivotInRows column tolerance (walkFrom m (← row.toStart))

/-- A pivot as a pair, or nothing. -/
def ofPair? (p : Option (Value × Value)) : Value :=
  ofOption (p.map fun (i, j) => tuple [i, j])

/-- The pivots in the listed rows, at or after a column.  A search that starts right of the last
column finds nothing. -/
def pivotsFrom (table tolerance : Value) (d : Nat) :
    List Nat → Nat → Except ArgumentFault (List (Nat × Nat))
  | [], _ => .ok []
  | row :: rows, column => do
    if d ≤ column then return []
    match ← leadingAt (← table.rowFrom row (int column)) tolerance with
    | some k => return (row, column + k) :: (← table.pivotsFrom tolerance d rows (column + k + 1))
    | .none => table.pivotsFrom tolerance d rows column

/-- All pivots of a table. -/
def pivotsOf (table tolerance : Value) : Except ArgumentFault (List (Nat × Nat)) := do
  let (m, d) ← table.tableExtents
  table.pivotsFrom tolerance d (List.range m) 0

end Value

namespace Parametrization

/-- The point whose coordinate at each pivot column is the offset of its pivot row, offsets having any
number of axes.  All columns and rows have to be there. -/
def pivotPointAt (d : Nat) (offsets : Tensor Float) (pivots : List (Nat × Nat)) :
    Except ArgumentFault (Tensor Float) :=
  pivots.foldlM
    (fun point (row, column) => do
      let x ← offsets.readAt (.int row)
      point.storeAt (.int column) x)
    ⟨[d], List.replicate d 0⟩

/-- The pivots as places of a table. -/
def placesOf (m d : Nat) (pivots : List (Nat × Nat)) : List (Pivot m d) :=
  pivots.filterMap fun (row, column) =>
    if h : row < m ∧ column < d then some (⟨row, h.1⟩, ⟨column, h.2⟩) else none

/-- The parametrization of a reduced array with its offsets. -/
def ofReducedValues (reduced offsets tolerance : Value) :
    Except Refusal (Parametrization Float) := do
  let t ← reduced.toFloats
  let b ← offsets.toFloats
  if t.shape.length < 2 then throw (.argument (.itemRange "tuple"))
  let table := Value.array t
  let (m, d) ← (table.tableExtents : Except SortFault (Nat × Nat))
  let found ← table.pivotsOf tolerance
  let point ← pivotPointAt d b found
  let pivots := placesOf m d found
  let free := freeColumns pivots
  let directions ← free.mapM fun j =>
    Vec.ofOriented (freeDirection pivots (t.toGrid m d) j) .column tolerance
  let basePoint ← Vec.ofOriented (point.toVectorOf d) .column tolerance
  ofParts d basePoint directions (free.map fun j : Fin d => (j.val : Int) + 1)

end Parametrization

end LinearSystems
