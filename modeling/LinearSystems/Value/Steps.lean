import LinearSystems.Value.Fields
import LinearSystems.Value.Pivots

/-!
# Elimination steps on values

The single steps of an elimination with rows, columns and scalars of unknown sort.  Rows and columns
are looked up as in any array, so an index may mean several rows at once, and a scalar may be an array
that fits them.

A step works on the rows and offsets in place.  One that fails leaves what it has done so far: a row
that has been scaled stays scaled when its offset cannot be.
-/

namespace LinearSystems

/-- The rows and offsets of an elimination as arrays. -/
structure Workspace where
  rows : Tensor Float
  offsets : Tensor Float

/-- A step: it may fail, and what it has done until then stays. -/
abbrev Step := ExceptT Refusal (StateM Workspace)

namespace Step

open Value

/-- The part of the rows under an index. -/
def rowsAt (index : Value) : Step (Tensor Float) := do (← get).rows.readAt index

def storeRows (index : Value) (part : Tensor Float) : Step Unit := do
  let rows ← (← get).rows.storeAt index part
  modify fun w => { w with rows }

def offsetsAt (index : Value) : Step (Tensor Float) := do (← get).offsets.readAt index

def storeOffsets (index : Value) (part : Tensor Float) : Step Unit := do
  let offsets ← (← get).offsets.storeAt index part
  modify fun w => { w with offsets }

/-- A result as it is stored among floats: of a complex number only the real part. -/
def toStored (v : Value) : Except ArgumentFault (Tensor Float) :=
  match v with
  | array t => .ok t
  | bulk .complex [] [complex re _] => .ok ⟨[], [re]⟩
  | v => do return ⟨[], [← v.toFloat]⟩

/-- Combines a value into a part of an array.  A part that is a single entry is a number and takes any
result that is one. -/
def combined (op : Arithmetic) (part : Tensor Float) (v : Value) :
    Except ArgumentFault (Tensor Float) := do
  if part.shape.isEmpty then toStored (← (ofTensor part).combine op v)
  else Value.combineInto op part v

/-! ## Row operations -/

/-- Exchanges two rows; both are read before either is written. -/
def swapRows (a b : Value) : Step Unit := do
  let there := list [a, b]
  let back := list [b, a]
  storeRows there (← rowsAt back)
  storeOffsets there (← offsetsAt back)

def multiplyRow (scalar row : Value) : Step Unit := do
  storeRows row (← combined .multiply (← rowsAt row) scalar)
  storeOffsets row (← combined .multiply (← offsetsAt row) scalar)

/-- Adds a multiple of one row to another; the row that changes is looked up first. -/
def addMultiple (scalar source target : Value) : Step Unit := do
  let rows ← rowsAt target
  let multiple ← scalar.combine .multiply (ofTensor (← rowsAt source))
  storeRows target (← combined .add rows multiple)
  let offsets ← offsetsAt target
  let multiple ← scalar.combine .multiply (ofTensor (← offsetsAt source))
  storeOffsets target (← combined .add offsets multiple)

/-! ## Elimination steps -/

/-- What an index finds counts as zero. -/
def isNegligible (tolerance : Float) (entry : Tensor Float) : Except ArgumentFault Bool := do
  (← (ofTensor entry).isZero (float tolerance)).isTruthy

/-- Eliminates a column from the target row by adding a multiple of the source row.  Nothing happens
when either entry of that column is zero within tolerance. -/
def eliminateIn (tolerance : Float) (column source target : Value) : Step Unit := do
  let entry ← rowsAt (tuple [target, column])
  let pivot ← rowsAt (tuple [source, column])
  if ← isNegligible tolerance entry then return
  if ← isNegligible tolerance pivot then return
  let factor ← entry.zipWith (fun x y => -x / y) pivot
  addMultiple (ofTensor factor) source target
  storeRows (tuple [target, column]) ⟨[], [0]⟩

/-- Eliminates a column from every row after `row` in its count.  A row counted from the end is
followed by the rows counted from the front too, and so may come to eliminate itself. -/
def eliminateBelow (m : Nat) (tolerance : Float) (row column : Value) : Step Unit := do
  let start ← (← row.combine .add (int 1)).toStart
  (walkFrom m start).forM fun target => eliminateIn tolerance column row (int target)

/-- Eliminates a column from every row from the one before `row` up to the first. -/
def eliminateAbove (m : Nat) (tolerance : Float) (row column : Value) : Step Unit := do
  let start ← (← row.combine .subtract (int 1)).toStart
  -- A walk that starts behind the last row ends with its first step, since nothing is there.
  let targets := if (m : Int) ≤ start then [start]
    else (List.range (start + 1).toNat).reverse.map Int.ofNat
  targets.forM fun target => eliminateIn tolerance column row (int target)

/-- What is said of a pivot that reads as zero.  Its numbers are those that were asked for. -/
def refusePivot (tolerance : Float) (row column : Value) (pivot : Tensor Float) :
    Except Refusal Unit := do
  let _ ← row.display
  let _ ← column.display
  let x ← (ofTensor pivot).toFloat
  throw (.fault (.vanishedPivot row.elementInt column.elementInt x tolerance))

/-- Scales a row so that its pivot becomes exactly one. -/
def scalePivotToOne (tolerance : Float) (row column : Value) : Step Unit := do
  let pivot ← rowsAt (tuple [row, column])
  if ← isNegligible tolerance pivot then refusePivot tolerance row column pivot
  multiplyRow (ofTensor (pivot.map (1 / ·))) row
  storeRows (tuple [row, column]) ⟨[], [1]⟩

/-! ## Searches -/

/-- The rows of a column from a given one on. -/
def columnFrom (row : Value) (column : Int) : Step (List Float) := do
  let t := (← get).rows
  let (m, d) ← (array t).tableExtents
  let j ← toPlace column
  let first ← row.toPartStart m
  match position? d j with
  | some j => return ((t.toGrid m d).column j).toList.drop first
  | .none => throw (.argument (.array (.outOfBounds j 1 d)))

/-- The first row with a significant entry in one of the listed columns, the leftmost column first. -/
def pivotInColumns (tolerance : Float) (row : Value) : List Int → Step (Option (Value × Value))
  | [] => return .none
  | column :: columns => do
    let entries ← columnFrom row column
    match ← leadingAt entries (float tolerance) with
    | some k => return some (← row.combine .add (int k), int column)
    | .none => pivotInColumns tolerance row columns

/-- The pivot for the rows from a given one on. -/
def findPivot (d : Nat) (tolerance : Float) (row column : Value) : Step Value := do
  let start ← column.toStart
  return .ofPair? (← pivotInColumns tolerance row (walkFrom d start))

/-- The solution that is read off the offsets at pivots that are given as pairs; of two pivots in one
column the later wins. -/
def uniqueSolution (d : Nat) (tolerance : Float) (pivots : Value) : Step Value := do
  let items ← pivots.items
  let point ← items.foldlM
    (fun point pair => do
      let (row, column) ← pair.toPair
      let x ← offsetsAt row
      (point.storeAt column x : Except ArgumentFault (Tensor Float)))
    (⟨[d], List.replicate d 0⟩ : Tensor Float)
  let solution ← (Vec.ofComponents (point.toVectorOf d) tolerance : Except (Fault Float) (Vec Float))
  return vec solution

end Step

namespace Elimination

variable {m d : Nat}

/-- Runs a step on the rows and offsets of an elimination. -/
def runStep {α : Type} (e : Elimination Float m d) (step : Step α) :
    Except Refusal α × Elimination Float m d :=
  let (result, after) := step.run ⟨.ofGrid e.tableau.rows, .ofVector e.tableau.offsets⟩
  (result, { e with tableau := ⟨after.rows.toGrid m d, after.offsets.toVectorOf m⟩ })

/-- One step by its name: its result, and the elimination afterwards even if the step failed. -/
def step? (e : Elimination Float m d) (name : String) (argument : Nat → String → Value) :
    Option (Except Refusal Value × Elimination Float m d) :=
  let tau := e.tolerance
  let t := e.tableau
  let quiet (step : Step Unit) : Option (Except Refusal Value × Elimination Float m d) :=
    some (e.runStep do
      step
      return .none)
  match name with
  | "triangular_form" => some (.ok .none, e.triangular)
  | "reduced_row_echelon_form" =>
    match e.reduced with
    | .ok (after, pivots) => some (.ok (.tuple (pivots.map .ofPivot)), after)
    | .error cause => some (.error (.fault cause), e)
  | "classify" =>
    let verdict : Except Refusal Value := do
      if !t.isConsistent tau then return .kind .inconsistent
      return .kind (t.classify tau (← (argument 0 "pivots").count))
    some (verdict, e)
  | "is_consistent" => some (.ok (.bool (t.isConsistent tau)), e)
  | "unique_solution" => some (e.runStep (Step.uniqueSolution d tau (argument 0 "pivots")))
  | "find_pivot_row" =>
    some (e.runStep (Step.findPivot d tau (argument 0 "row") (argument 1 "variable")))
  | "eliminate_below" => quiet (Step.eliminateBelow m tau (argument 0 "row") (argument 1 "variable"))
  | "eliminate_above" => quiet (Step.eliminateAbove m tau (argument 0 "row") (argument 1 "variable"))
  | "eliminate_variable_in_row" =>
    quiet (Step.eliminateIn tau (argument 0 "variable") (argument 1 "source") (argument 2 "target"))
  | "reduce_pivot_to_one" =>
    quiet (Step.scalePivotToOne tau (argument 0 "row") (argument 1 "variable"))
  | "swap_rows" => quiet (Step.swapRows (argument 0 "row1") (argument 1 "row2"))
  | "multiply_row" => quiet (Step.multiplyRow (argument 0 "scalar") (argument 1 "row"))
  | "add_multiple_of_row" =>
    quiet (Step.addMultiple (argument 0 "scalar") (argument 1 "source") (argument 2 "target"))
  | _ => none

end Elimination

end LinearSystems
