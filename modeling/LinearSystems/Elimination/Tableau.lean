import LinearSystems.Elimination.Pivots
import LinearSystems.Fault

/-!
# Tableaux

The working state of an elimination: the rows of a system and, beside each row, its offset.  The
elementary row operations and the two elimination steps are functions from tableau to tableau; each
lemma says what they do to one entry and to one offset.

An elimination step skips an entry that is zero within tolerance, and sets the entry that it
eliminates to exactly zero.
-/

namespace LinearSystems

variable {K : Type} {m d : Nat}

structure Tableau (K : Type) (m d : Nat) where
  rows : Grid K m d
  offsets : Vector K m

namespace Tableau

def entry (t : Tableau K m d) (i : Fin m) (j : Fin d) : K := t.rows.entry i j

def offset (t : Tableau K m d) (i : Fin m) : K := t.offsets.get i

def ofFn (entries : Fin m → Fin d → K) (offsets : Fin m → K) : Tableau K m d :=
  ⟨Grid.ofFn entries, Vector.ofFn offsets⟩

@[simp] theorem entry_ofFn (f : Fin m → Fin d → K) (b : Fin m → K) (i : Fin m) (j : Fin d) :
    (ofFn f b).entry i j = f i j := by
  simp [ofFn, entry]

@[simp] theorem offset_ofFn (f : Fin m → Fin d → K) (b : Fin m → K) (i : Fin m) :
    (ofFn f b).offset i = b i :=
  Vector.getElem_ofFn i.isLt

/-! ## Row operations -/

/-- The row that stands at `i` once the rows `a` and `b` have changed places. -/
def exchange (a b i : Fin m) : Fin m := if i = a then b else if i = b then a else i

/-- Exchanges two rows. -/
def swap (a b : Fin m) (t : Tableau K m d) : Tableau K m d :=
  ofFn (fun i j => t.entry (exchange a b i) j) fun i => t.offset (exchange a b i)

@[simp] theorem entry_swap (a b : Fin m) (t : Tableau K m d) (i : Fin m) (j : Fin d) :
    (t.swap a b).entry i j = t.entry (exchange a b i) j := by
  simp [swap]

@[simp] theorem offset_swap (a b : Fin m) (t : Tableau K m d) (i : Fin m) :
    (t.swap a b).offset i = t.offset (exchange a b i) := by
  simp [swap]

/-- Multiplies a row by a scalar. -/
def scale [Mul K] (scalar : K) (row : Fin m) (t : Tableau K m d) : Tableau K m d :=
  ofFn (fun i j => if i = row then t.entry i j * scalar else t.entry i j)
    fun i => if i = row then t.offset i * scalar else t.offset i

@[simp] theorem entry_scale [Mul K] (c : K) (r : Fin m) (t : Tableau K m d) (i : Fin m)
    (j : Fin d) :
    (t.scale c r).entry i j = if i = r then t.entry i j * c else t.entry i j := by
  simp [scale]

@[simp] theorem offset_scale [Mul K] (c : K) (r : Fin m) (t : Tableau K m d) (i : Fin m) :
    (t.scale c r).offset i = if i = r then t.offset i * c else t.offset i := by
  simp [scale]

/-- Adds a multiple of one row to another. -/
def addMultiple [Mul K] [Add K] (scalar : K) (source target : Fin m) (t : Tableau K m d) :
    Tableau K m d :=
  ofFn
    (fun i j => if i = target then t.entry i j + scalar * t.entry source j else t.entry i j)
    fun i => if i = target then t.offset i + scalar * t.offset source else t.offset i

@[simp] theorem entry_addMultiple [Mul K] [Add K] (c : K) (s r : Fin m) (t : Tableau K m d)
    (i : Fin m) (j : Fin d) :
    (t.addMultiple c s r).entry i j =
      if i = r then t.entry i j + c * t.entry s j else t.entry i j := by
  simp [addMultiple]

@[simp] theorem offset_addMultiple [Mul K] [Add K] (c : K) (s r : Fin m) (t : Tableau K m d)
    (i : Fin m) :
    (t.addMultiple c s r).offset i =
      if i = r then t.offset i + c * t.offset s else t.offset i := by
  simp [addMultiple]

/-- Overwrites one entry. -/
def setEntry (row : Fin m) (column : Fin d) (x : K) (t : Tableau K m d) : Tableau K m d :=
  ofFn (fun i j => if i = row ∧ j = column then x else t.entry i j) t.offset

@[simp] theorem entry_setEntry (r : Fin m) (c : Fin d) (x : K) (t : Tableau K m d) (i : Fin m)
    (j : Fin d) :
    (t.setEntry r c x).entry i j = if i = r ∧ j = c then x else t.entry i j := by
  simp [setEntry]

@[simp] theorem offset_setEntry (r : Fin m) (c : Fin d) (x : K) (t : Tableau K m d) (i : Fin m) :
    (t.setEntry r c x).offset i = t.offset i := by
  simp [setEntry]

/-- Sets the entries in the rows from `row` on and the columns from `start` up to, but not
including, `stop` to zero. -/
def clearBlock [Zero K] (row start stop : Nat) (t : Tableau K m d) : Tableau K m d :=
  ofFn (fun i j => if row ≤ i ∧ start ≤ j ∧ j < stop then 0 else t.entry i j) t.offset

@[simp] theorem entry_clearBlock [Zero K] (r a b : Nat) (t : Tableau K m d) (i : Fin m)
    (j : Fin d) :
    (t.clearBlock r a b).entry i j = if r ≤ i ∧ a ≤ j ∧ j < b then 0 else t.entry i j := by
  simp [clearBlock]

@[simp] theorem offset_clearBlock [Zero K] (r a b : Nat) (t : Tableau K m d) (i : Fin m) :
    (t.clearBlock r a b).offset i = t.offset i := by
  simp [clearBlock]

variable [Scalar K]

/-- Sets every entry and offset whose magnitude is below the tolerance to zero. -/
def clean (tolerance : K) (t : Tableau K m d) : Tableau K m d :=
  ofFn (fun i j => if Scalar.isSmall tolerance (t.entry i j) then 0 else t.entry i j)
    fun i => if Scalar.isSmall tolerance (t.offset i) then 0 else t.offset i

@[simp] theorem entry_clean (τ : K) (t : Tableau K m d) (i : Fin m) (j : Fin d) :
    (t.clean τ).entry i j = if Scalar.isSmall τ (t.entry i j) then 0 else t.entry i j := by
  simp [clean]

@[simp] theorem offset_clean (τ : K) (t : Tableau K m d) (i : Fin m) :
    (t.clean τ).offset i = if Scalar.isSmall τ (t.offset i) then 0 else t.offset i := by
  simp [clean]

/-! ## Elimination steps -/

/-- Eliminates a column from the target row by adding a multiple of the source row.  Nothing
happens when either entry of that column is zero within tolerance. -/
def eliminateIn (tolerance : K) (column : Fin d) (source target : Fin m) (t : Tableau K m d) :
    Tableau K m d :=
  let entry := t.entry target column
  let pivot := t.entry source column
  if Scalar.isZero entry tolerance || Scalar.isZero pivot tolerance then t
  else (t.addMultiple (-entry / pivot) source target).setEntry target column 0

/-- Eliminates a column from every row below. -/
def eliminateBelow (tolerance : K) (row : Fin m) (column : Fin d) (t : Tableau K m d) :
    Tableau K m d :=
  (List.finRange m).foldl
    (fun t i => if row < i then t.eliminateIn tolerance column row i else t) t

/-- Eliminates a column from every row above, the nearest first. -/
def eliminateAbove (tolerance : K) (row : Fin m) (column : Fin d) (t : Tableau K m d) :
    Tableau K m d :=
  (List.finRange m).reverse.foldl
    (fun t i => if i < row then t.eliminateIn tolerance column row i else t) t

/-- Scales a row so that its pivot becomes exactly one. -/
def scalePivotToOne (tolerance : K) (row : Fin m) (column : Fin d) (t : Tableau K m d) :
    Except (Fault K) (Tableau K m d) :=
  let pivot := t.entry row column
  if Scalar.isZero pivot tolerance then .error (.vanishedPivot row column pivot tolerance)
  else .ok ((t.scale (1 / pivot) row).setEntry row column 1)

/-- The pivot for the rows from `row` on: the leftmost column at or after `column` in which one of
them has a significant entry, and the first such row. -/
def findPivot (tolerance : K) (t : Tableau K m d) (row column : Nat) : Option (Pivot m d) :=
  (List.finRange d).findSome? fun j : Fin d =>
    if column ≤ j.val then
      ((List.finRange m).find? fun i : Fin m =>
        decide (row ≤ i.val) && Scalar.isSignificant tolerance (t.entry i j)).map (·, j)
    else none

/-- No row reads `0 = k` with a significant `k`. -/
def isConsistent (tolerance : K) (t : Tableau K m d) : Bool :=
  !(List.finRange m).any fun i =>
    ((List.finRange d).all fun j => Scalar.isSmall tolerance (t.entry i j)) &&
      Scalar.isSignificant tolerance (t.offset i)

end Tableau

end LinearSystems
