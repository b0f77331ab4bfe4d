/-!
# Grids

A rectangular table of entries whose extents are part of its type, so that no reader of an entry
needs a bounds check.  Every operation is written entry by entry through `Grid.ofFn`, and its lemma
says what the entry at `(i, j)` is; nothing else about the representation is used elsewhere.
-/

namespace LinearSystems

universe u v

/-- A table of `m` rows with `d` entries each. -/
structure Grid (K : Type u) (m d : Nat) where
  rows : Vector (Vector K d) m

namespace Grid

variable {K : Type u} {L : Type v} {m d : Nat}

/-- The table whose entry at row `i` and column `j` is `f i j`. -/
def ofFn (f : Fin m → Fin d → K) : Grid K m d :=
  ⟨Vector.ofFn fun i => Vector.ofFn fun j => f i j⟩

def row (g : Grid K m d) (i : Fin m) : Vector K d := g.rows.get i

def entry (g : Grid K m d) (i : Fin m) (j : Fin d) : K := (g.row i).get j

def column (g : Grid K m d) (j : Fin d) : Vector K m := Vector.ofFn fun i => g.entry i j

@[simp] theorem entry_ofFn (f : Fin m → Fin d → K) (i : Fin m) (j : Fin d) :
    (ofFn f).entry i j = f i j := by
  have rowAt : (ofFn f).row i = Vector.ofFn fun j => f i j := Vector.getElem_ofFn i.isLt
  rw [entry, rowAt]
  exact Vector.getElem_ofFn j.isLt

theorem ext_entry {g h : Grid K m d} (same : ∀ i j, g.entry i j = h.entry i j) : g = h := by
  obtain ⟨g⟩ := g
  obtain ⟨h⟩ := h
  congr 1
  apply Vector.ext
  intro i hi
  apply Vector.ext
  intro j hj
  exact same ⟨i, hi⟩ ⟨j, hj⟩

def map (f : K → L) (g : Grid K m d) : Grid L m d := ofFn fun i j => f (g.entry i j)

@[simp] theorem entry_map (f : K → L) (g : Grid K m d) (i : Fin m) (j : Fin d) :
    (g.map f).entry i j = f (g.entry i j) := by
  simp [map]

def transpose (g : Grid K m d) : Grid K d m := ofFn fun j i => g.entry i j

@[simp] theorem entry_transpose (g : Grid K m d) (i : Fin m) (j : Fin d) :
    g.transpose.entry j i = g.entry i j := by
  simp [transpose]

/-- Every entry satisfies the test. -/
def all (p : K → Bool) (g : Grid K m d) : Bool :=
  (List.finRange m).all fun i => (List.finRange d).all fun j => p (g.entry i j)

theorem all_eq_true_iff {p : K → Bool} {g : Grid K m d} :
    g.all p = true ↔ ∀ i j, p (g.entry i j) = true := by
  simp [all]

/-- The entries row after row. -/
def toList (g : Grid K m d) : List K := (g.rows.toList.map Vector.toList).flatten

/-- The rows as lists, for printing. -/
def toLists (g : Grid K m d) : List (List K) := g.rows.toList.map Vector.toList

/-- The number of entries that satisfy the test. -/
def count (p : K → Bool) (g : Grid K m d) : Nat := g.toList.countP p

end Grid

end LinearSystems
