import Mathlib
import LinearSystems.Proofs.FloatingPoint
import LinearSystems.Proofs.Geometry.Operations
import LinearSystems.Proofs.Session.Results
import LinearSystems.Session.Calls

/-!
# Products and transposes

A product of matrices can be had in four ways that have to agree: as the product, as the transpose of
the product of the transposes, and entry by entry as a row of the left operand times a column of the
right one, both taken out as vectors.  Vectors are matrices here (`MatrixLike`), and their transposes are
made by another constructor than those of matrices (`MatrixLike.exists_transpose`).

All of this rests on the tables of entries: the transpose of a product is the product of the transposes
in the opposite order, where multiplication is commutative (`Grid.transpose_product`).  What is refused
is refused on both sides (`MatrixLike.product_of_transposes`): a product of these operands fails because
the inner extents differ or because an entry is not a number, and neither depends on the side.
-/

namespace LinearSystems

variable {K : Type} [Scalar K]

/-! ## Tables of sums of products -/

/-- Only the order of the factors is changed, not the order of the sum. -/
theorem sumOfProducts_comm (hcomm : ∀ x y : K, x * y = y * x) {n : Nat} (u w : Fin n → K) :
    sumOfProducts u w = sumOfProducts w u := by
  have hstep : (fun sum k => sum + u k * w k) = fun sum k => sum + w k * u k := by
    funext sum k
    rw [hcomm]
  rw [sumOfProducts, hstep, sumOfProducts]

namespace Grid

variable {m n p : Nat}

omit [Scalar K] in
theorem mem_toList_iff {g : Grid K m n} {x : K} : x ∈ g.toList ↔ ∃ i j, g.entry i j = x := by
  unfold toList
  rw [List.mem_flatten]
  constructor
  · rintro ⟨_, hrow, hx⟩
    obtain ⟨r, hr, rfl⟩ := List.mem_map.1 hrow
    obtain ⟨i, hi, rfl⟩ := Vector.getElem_of_mem (Vector.mem_toList_iff.1 hr)
    obtain ⟨j, hj, rfl⟩ := Vector.getElem_of_mem (Vector.mem_toList_iff.1 hx)
    exact ⟨⟨i, hi⟩, ⟨j, hj⟩, rfl⟩
  · rintro ⟨i, j, rfl⟩
    exact ⟨_, List.mem_map.2 ⟨g.row i, Vector.mem_toList_iff.2 (Vector.getElem_mem i.isLt), rfl⟩,
      Vector.mem_toList_iff.2 (Vector.getElem_mem j.isLt)⟩

/-- Every entry is a row of the left table times a column of the right one. -/
def product (g : Grid K m n) (h : Grid K n p) : Grid K m p :=
  ofFn fun i j => sumOfProducts (g.entry i) fun k => h.entry k j

@[simp] theorem entry_product (g : Grid K m n) (h : Grid K n p) (i : Fin m) (j : Fin p) :
    (g.product h).entry i j = sumOfProducts (g.entry i) fun k => h.entry k j :=
  entry_ofFn _ i j

/-- **The transpose of a product is the product of the transposes in the opposite order.** -/
theorem transpose_product (hcomm : ∀ x y : K, x * y = y * x) (g : Grid K m n) (h : Grid K n p) :
    (g.product h).transpose = h.transpose.product g.transpose := by
  apply ext_entry
  intro j i
  have hcolumn : h.transpose.entry j = fun k => h.entry k j := by
    funext k
    rw [entry_transpose]
  have hrow : (fun k => g.transpose.entry k i) = g.entry i := by
    funext k
    rw [entry_transpose]
  rw [entry_transpose, entry_product, entry_product, hcolumn, hrow, sumOfProducts_comm hcomm]

/-- All entries are numbers. -/
def IsFinite (g : Grid K m n) : Prop := ∀ i j, Scalar.isFinite (g.entry i j) = true

theorem isFinite_transpose_iff {g : Grid K m n} : g.transpose.IsFinite ↔ g.IsFinite := by
  constructor
  · exact fun h i j => entry_transpose g i j ▸ h j i
  · exact fun h j i => (entry_transpose g i j).symm ▸ h i j

end Grid

/-! ## How a product can fail -/

/-- The extents of the operands do not fit. -/
def IsMismatch {α : Type} (r : Except (Fault K) α) : Prop :=
  ∃ fault, r = .error fault ∧ fault.kind = .own .shapeMismatch

/-- The result would have had undefined or infinite entries. -/
def IsNonFinite {α : Type} (r : Except (Fault K) α) : Prop :=
  ∃ undefined infinite, r = .error (.nonFinite "elements" undefined infinite)

omit [Scalar K] in
/-- One refusal has one cause. -/
theorem IsMismatch.not_isNonFinite {α : Type} {r : Except (Fault K) α} (h : IsMismatch r) :
    ¬IsNonFinite r := by
  rintro ⟨_, _, hnonfinite⟩
  obtain ⟨fault, hrefused, hkind⟩ := h
  obtain rfl := Except.error.inj (hnonfinite.symm.trans hrefused)
  cases hkind

namespace Mat

variable {m n p : Nat} {τ σ : K} {family : Family}

/-- The matrix with rows and columns exchanged. -/
def flipped (a : Mat K) : Mat K := ⟨a.columns, a.rows, a.elements.transpose, a.tolerance⟩

theorem isAdmissible_iff {a : Mat K} :
    a.IsAdmissible ↔ 0 < a.rows ∧ 0 < a.columns ∧ a.elements.IsFinite := by
  constructor
  · intro h
    exact ⟨h.rows_pos, h.columns_pos, fun i j => h.finite _ (Grid.mem_toList_iff.2 ⟨i, j, rfl⟩)⟩
  · rintro ⟨hrows, hcolumns, hfinite⟩
    refine ⟨hrows, hcolumns, fun x hx => ?_⟩
    obtain ⟨i, j, rfl⟩ := Grid.mem_toList_iff.1 hx
    exact hfinite i j

/-- A table with entries is made a matrix, unless some entry is not a number. -/
theorem ofGrid_eq_ok {g : Grid K m p} (hm : 0 < m) (hp : 0 < p) (hg : g.IsFinite)
    (hτ : Tolerance.require τ = .ok τ) : ofGrid g τ = .ok ⟨m, p, g, τ⟩ := by
  have hchecked : requireElements g = .ok () :=
    requireElements_eq_ok_iff.2 (isAdmissible_iff (a := ⟨m, p, g, τ⟩).2 ⟨hm, hp, hg⟩)
  rw [ofGrid, hchecked, hτ]
  rfl

theorem isNonFinite_ofGrid {g : Grid K m p} (hm : 0 < m) (hp : 0 < p) (hg : ¬g.IsFinite) :
    IsNonFinite (ofGrid g τ) := by
  have hnonempty : requireNonempty "elements" [m, p] = (.ok () : Except (Fault K) Unit) := by
    simp [requireNonempty, hm.ne, hp.ne]
  cases hfinite : requireFinite "elements" g.toList with
  | ok _ =>
      have hall := requireFinite_eq_ok_iff.1 hfinite
      exact absurd (fun i j => hall _ (Grid.mem_toList_iff.2 ⟨i, j, rfl⟩)) hg
  | error fault =>
      obtain ⟨undefined, infinite, rfl⟩ := requireFinite_eq_error hfinite
      refine ⟨undefined, infinite, ?_⟩
      rw [ofGrid, requireElements, hnonempty, hfinite]
      rfl

theorem multiply_mk {g : Grid K m n} {h : Grid K n p} :
    (⟨m, n, g, τ⟩ : Mat K).multiply ⟨n, p, h, σ⟩ family = ofGrid (g.product h) τ :=
  dif_pos rfl

theorem isMismatch_multiply {a b : Mat K} (hne : a.columns ≠ b.rows) :
    IsMismatch (a.multiply b family) :=
  ⟨.innerExtents family a.extents b.extents, dif_neg hne, rfl⟩

section Outcomes

variable {g : Grid K m n} {h : Grid K n p} {c : Mat K}

/-- Operands that fit have a product, unless some entry of it is not a number. -/
theorem multiply_eq_ok_iff (ha : (⟨m, n, g, τ⟩ : Mat K).IsMadeUnder τ)
    (hb : (⟨n, p, h, σ⟩ : Mat K).IsMadeUnder σ) :
    (⟨m, n, g, τ⟩ : Mat K).multiply ⟨n, p, h, σ⟩ family = .ok c ↔
      (g.product h).IsFinite ∧ c = ⟨m, p, g.product h, τ⟩ := by
  have hm : 0 < m := ha.admissible.rows_pos
  have hp : 0 < p := hb.admissible.columns_pos
  rw [multiply_mk]
  by_cases hfinite : (g.product h).IsFinite
  · rw [ofGrid_eq_ok hm hp hfinite ha.accepted, Except.ok.injEq, eq_comm]
    exact (and_iff_right hfinite).symm
  · obtain ⟨_, _, hrefused⟩ := isNonFinite_ofGrid (τ := τ) hm hp hfinite
    rw [hrefused]
    exact iff_of_false nofun fun hc => hfinite hc.1

theorem isNonFinite_multiply_iff (ha : (⟨m, n, g, τ⟩ : Mat K).IsMadeUnder τ)
    (hb : (⟨n, p, h, σ⟩ : Mat K).IsMadeUnder σ) :
    IsNonFinite ((⟨m, n, g, τ⟩ : Mat K).multiply ⟨n, p, h, σ⟩ family) ↔
      ¬(g.product h).IsFinite := by
  constructor
  · rintro ⟨_, _, hrefused⟩ hfinite
    rw [(multiply_eq_ok_iff ha hb).2 ⟨hfinite, rfl⟩] at hrefused
    cases hrefused
  · intro hinfinite
    rw [multiply_mk]
    exact isNonFinite_ofGrid ha.admissible.rows_pos hb.admissible.columns_pos hinfinite

end Outcomes

/-- The extents are all that a product looks at before the entries. -/
theorem isMismatch_multiply_iff {a b : Mat K} (ha : a.IsMadeUnder τ) (hb : b.IsMadeUnder σ) :
    IsMismatch (a.multiply b family) ↔ a.columns ≠ b.rows := by
  refine ⟨?_, fun hne => isMismatch_multiply hne⟩
  rintro ⟨fault, hrefused, hkind⟩ hinner
  obtain ⟨m, n, g, _⟩ := a
  obtain ⟨_, p, h, _⟩ := b
  obtain rfl : n = _ := hinner
  obtain rfl := ha.tolerance
  obtain rfl := hb.tolerance
  by_cases hfinite : (g.product h).IsFinite
  · rw [(multiply_eq_ok_iff ha hb).2 ⟨hfinite, rfl⟩] at hrefused
    cases hrefused
  · exact IsMismatch.not_isNonFinite ⟨fault, hrefused, hkind⟩
      ((isNonFinite_multiply_iff ha hb).2 hfinite)

theorem columns_eq_of_multiply_eq_ok {a b c : Mat K} (h : a.multiply b family = .ok c) :
    a.columns = b.rows := by
  by_contra hne
  obtain ⟨fault, hrefused, -⟩ : IsMismatch (a.multiply b family) := isMismatch_multiply hne
  cases hrefused.symm.trans h

theorem IsMadeUnder.flipped {a : Mat K} (ha : a.IsMadeUnder τ) : a.flipped.IsMadeUnder τ := by
  obtain ⟨hrows, hcolumns, hfinite⟩ := isAdmissible_iff.1 ha.admissible
  exact ⟨isAdmissible_iff.2 ⟨hcolumns, hrows, Grid.isFinite_transpose_iff.2 hfinite⟩,
    ha.tolerance, ha.accepted⟩

theorem transpose_eq_ok {a : Mat K} (ha : a.IsMadeUnder τ) : a.transpose = .ok a.flipped := by
  obtain ⟨hrows, hcolumns, hfinite⟩ := isAdmissible_iff.1 ha.flipped.admissible
  exact ofGrid_eq_ok hrows hcolumns hfinite (ha.tolerance ▸ ha.accepted)

/-! ## Rows and columns -/

theorem getRow_eq_ok {a : Mat K} (ha : a.IsMadeUnder τ) (i : Fin a.rows) :
    a.getRow (i : Nat) = .ok ⟨a.columns, a.elements.row i, .row, a.tolerance⟩ := by
  obtain ⟨-, hcolumns, hfinite⟩ := isAdmissible_iff.1 ha.admissible
  rw [getRow, requireIndex_natCast]
  exact Vec.ofComponents_eq_ok_of_finite hcolumns (ha.tolerance ▸ ha.accepted) (hfinite i)

theorem getColumn_eq_ok {a : Mat K} (ha : a.IsMadeUnder τ) (j : Fin a.columns) :
    a.getColumn (j : Nat) = .ok ⟨a.rows, a.elements.column j, .column, a.tolerance⟩ := by
  obtain ⟨hrows, -, hfinite⟩ := isAdmissible_iff.1 ha.admissible
  rw [getColumn, requireIndex_natCast]
  refine Vec.ofComponents_eq_ok_of_finite hrows (ha.tolerance ▸ ha.accepted) fun i => ?_
  exact (Vector.get_ofFn _ i).symm ▸ hfinite i j

/-! ## The product of the transposes -/

section Flipped

variable {a b c : Mat K} {family' : Family}

theorem isMismatch_flipped_iff (ha : a.IsMadeUnder τ) (hb : b.IsMadeUnder σ) :
    IsMismatch (b.flipped.multiply a.flipped family') ↔ IsMismatch (a.multiply b family) := by
  rw [isMismatch_multiply_iff hb.flipped ha.flipped, isMismatch_multiply_iff ha hb]
  exact not_congr eq_comm

theorem isNonFinite_flipped_iff (hcomm : ∀ x y : K, x * y = y * x) (ha : a.IsMadeUnder τ)
    (hb : b.IsMadeUnder σ) :
    IsNonFinite (b.flipped.multiply a.flipped family') ↔ IsNonFinite (a.multiply b family) := by
  by_cases hinner : a.columns = b.rows
  · obtain ⟨m, n, g, _⟩ := a
    obtain ⟨_, p, h, _⟩ := b
    obtain rfl : n = _ := hinner
    obtain rfl := ha.tolerance
    obtain rfl := hb.tolerance
    refine (isNonFinite_multiply_iff hb.flipped ha.flipped).trans (.trans ?_
      (isNonFinite_multiply_iff ha hb).symm)
    rw [← Grid.transpose_product hcomm, Grid.isFinite_transpose_iff]
  · have hmismatch : IsMismatch (a.multiply b family) := isMismatch_multiply hinner
    exact iff_of_false ((isMismatch_flipped_iff ha hb).2 hmismatch).not_isNonFinite
      hmismatch.not_isNonFinite

/-- Where there is a product, the product of the transposes is its transpose, with the tolerance of
the other operand. -/
theorem multiply_flipped_eq_ok (hcomm : ∀ x y : K, x * y = y * x) (ha : a.IsMadeUnder τ)
    (hb : b.IsMadeUnder σ) (h : a.multiply b family = .ok c) :
    b.flipped.multiply a.flipped family' =
      .ok ⟨c.flipped.rows, c.flipped.columns, c.flipped.elements, σ⟩ := by
  obtain ⟨m, n, g, _⟩ := a
  obtain ⟨_, p, h', _⟩ := b
  obtain rfl : n = _ := columns_eq_of_multiply_eq_ok h
  obtain rfl := ha.tolerance
  obtain rfl := hb.tolerance
  obtain ⟨hfinite, rfl⟩ := (multiply_eq_ok_iff ha hb).1 h
  refine (multiply_eq_ok_iff hb.flipped ha.flipped).2 ⟨?_, ?_⟩
  · rw [← Grid.transpose_product hcomm]
    exact Grid.isFinite_transpose_iff.2 hfinite
  · rw [← Grid.transpose_product hcomm]
    rfl

end Flipped

/-- Every entry of a product is the dot product of a row and a column, taken out as vectors. -/
theorem entry_eq_dot {a b c : Mat K} (ha : a.IsMadeUnder τ) (hb : b.IsMadeUnder σ)
    (h : a.multiply b family = .ok c) :
    c.rows = a.rows ∧ c.columns = b.columns ∧
      ∀ (i : Fin c.rows) (j : Fin c.columns), ∃ u w, a.getRow (i : Nat) = .ok u ∧
        b.getColumn (j : Nat) = .ok w ∧ u.dot w = .ok (c.elements.entry i j) := by
  obtain ⟨m, n, g, _⟩ := a
  obtain ⟨_, p, h', _⟩ := b
  obtain rfl : n = _ := columns_eq_of_multiply_eq_ok h
  obtain rfl := ha.tolerance
  obtain rfl := hb.tolerance
  obtain ⟨-, rfl⟩ := (multiply_eq_ok_iff ha hb).1 h
  refine ⟨rfl, rfl, fun i j => ⟨_, _, getRow_eq_ok ha i, getColumn_eq_ok hb j, ?_⟩⟩
  have hcolumn : (h'.column j).get = fun k => h'.entry k j := funext fun k => Vector.get_ofFn _ k
  rw [Vec.dot_mk, hcolumn, Grid.entry_product]
  rfl

end Mat

/-! ## Vectors as matrices -/

namespace Vec

variable {τ : K}

omit [Scalar K] in
/-- As matrices, a vector and the one that lies the other way are transposes of each other. -/
theorem toMat_flip (v : Vec K) :
    (⟨v.dimensions, v.components, v.orientation.flip, v.tolerance⟩ : Vec K).toMat =
      v.toMat.flipped := by
  obtain ⟨n, x, _ | _, τ⟩ := v <;>
    exact congrArg (Mat.mk _ _ · τ) (Grid.ext_entry fun i j => by simp [toMat, component])

theorem isMadeUnder_of_toMat {v : Vec K} (hv : v.toMat.IsMadeUnder τ) : v.IsMadeUnder τ := by
  refine ⟨?_, tolerance_toMat v ▸ hv.tolerance, hv.accepted⟩
  obtain ⟨hrows, hcolumns, hfinite⟩ := Mat.isAdmissible_iff.1 hv.admissible
  obtain ⟨n, x, _ | _, ρ⟩ := v
  · refine ⟨hrows, fun y hy => ?_⟩
    obtain ⟨i, hi, rfl⟩ := Vector.getElem_of_mem (Vector.mem_toList_iff.1 hy)
    have hentry : Scalar.isFinite ((Grid.ofFn fun i (_ : Fin 1) => x.get i).entry ⟨i, hi⟩ 0) = true :=
      hfinite ⟨i, hi⟩ ⟨0, one_pos⟩
    rwa [Grid.entry_ofFn] at hentry
  · refine ⟨hcolumns, fun y hy => ?_⟩
    obtain ⟨i, hi, rfl⟩ := Vector.getElem_of_mem (Vector.mem_toList_iff.1 hy)
    have hentry : Scalar.isFinite ((Grid.ofFn fun (_ : Fin 1) i => x.get i).entry 0 ⟨i, hi⟩) = true :=
      hfinite ⟨0, one_pos⟩ ⟨i, hi⟩
    rwa [Grid.entry_ofFn] at hentry

theorem transpose_eq_ok {v : Vec K} (hv : v.IsMadeUnder τ) :
    v.transpose = .ok ⟨v.dimensions, v.components, v.orientation.flip, v.tolerance⟩ :=
  ofComponents_eq_ok_iff.2 ⟨rfl, ⟨hv.admissible.pos, hv.admissible.finite⟩,
    hv.tolerance ▸ hv.accepted⟩

end Vec

/-- A matrix, or a vector, which is a matrix of one column or one row. -/
inductive MatrixLike (K : Type) where
  | mat (a : Mat K)
  | vec (v : Vec K)

namespace MatrixLike

variable {A B : MatrixLike K} {τ σ : K}

omit [Scalar K] in
def toMat : MatrixLike K → Mat K
  | mat a => a
  | vec v => v.toMat

def family : MatrixLike K → Family
  | mat _ => .matrix
  | vec _ => .vector

def transpose : MatrixLike K → Except (Fault K) (MatrixLike K)
  | mat a => mat <$> a.transpose
  | vec v => vec <$> v.transpose

/-- The product is a matrix, also that of vectors. -/
def multiply (A B : MatrixLike K) : Except (Fault K) (Mat K) := A.toMat.multiply B.toMat A.family

/-- A matrix or a vector among the values. -/
def toValue : MatrixLike Float → Value
  | mat a => .mat a
  | vec v => .vec v

/-- What is called by these names. -/
theorem method?_multiply (A B : MatrixLike Float) :
    Call.method? A.toValue "multiply" ⟨[B.toValue], []⟩ =
      some do return Value.mat (← A.multiply B) := by
  cases A <;> cases B <;> rfl

theorem method?_transpose (A : MatrixLike Float) :
    Call.method? A.toValue "transpose" ⟨[], []⟩ = some do return (← A.transpose).toValue := by
  cases A with
  | mat a =>
      refine congrArg some ?_
      show (liftM a.transpose >>= _) = (liftM (mat <$> a.transpose) >>= _)
      cases a.transpose <;> rfl
  | vec v =>
      refine congrArg some ?_
      show (liftM v.transpose >>= _) = (liftM (vec <$> v.transpose) >>= _)
      cases v.transpose <;> rfl

/-- A vector turns and a matrix is transposed; the tables are transposed either way. -/
theorem exists_transpose (hA : A.toMat.IsMadeUnder τ) :
    ∃ A', A.transpose = .ok A' ∧ A'.toMat = A.toMat.flipped := by
  cases A with
  | mat a => exact ⟨_, map_eq_ok_iff.2 ⟨_, Mat.transpose_eq_ok hA, rfl⟩, rfl⟩
  | vec v =>
      have hmade := Vec.transpose_eq_ok (Vec.isMadeUnder_of_toMat hA)
      exact ⟨_, map_eq_ok_iff.2 ⟨_, hmade, rfl⟩, Vec.toMat_flip v⟩

/-- **A product can be had row by column, and from the product of the transposes.**  Both products are
refused for their extents together and for their entries together, and where they are made, the entries
are dot products of rows and columns, and the tables are transposes of each other. -/
theorem product_of_transposes (hcomm : ∀ x y : K, x * y = y * x) (hA : A.toMat.IsMadeUnder τ)
    (hB : B.toMat.IsMadeUnder σ) :
    ∃ A' B', A.transpose = .ok A' ∧ B.transpose = .ok B' ∧
      (IsMismatch (A.multiply B) ↔ IsMismatch (B'.multiply A')) ∧
      (IsNonFinite (A.multiply B) ↔ IsNonFinite (B'.multiply A')) ∧
      ∀ c, A.multiply B = .ok c →
        c.rows = A.toMat.rows ∧ c.columns = B.toMat.columns ∧
        (∀ (i : Fin c.rows) (j : Fin c.columns), ∃ u w, A.toMat.getRow (i : Nat) = .ok u ∧
          B.toMat.getColumn (j : Nat) = .ok w ∧ u.dot w = .ok (c.elements.entry i j)) ∧
        ∃ t, c.transpose = .ok t ∧ B'.multiply A' = .ok ⟨t.rows, t.columns, t.elements, σ⟩ := by
  obtain ⟨A', hA', hflipA⟩ := exists_transpose hA
  obtain ⟨B', hB', hflipB⟩ := exists_transpose hB
  refine ⟨A', B', hA', hB', ?_⟩
  simp only [multiply, hflipA, hflipB]
  refine ⟨(Mat.isMismatch_flipped_iff hA hB).symm, (Mat.isNonFinite_flipped_iff hcomm hA hB).symm,
    fun c hc => ?_⟩
  obtain ⟨hrows, hcolumns, hentries⟩ := Mat.entry_eq_dot hA hB hc
  have hmade := Mat.isMadeUnder_of_multiply_eq_ok hc
  exact ⟨hrows, hcolumns, hentries, c.flipped, Mat.transpose_eq_ok hmade,
    Mat.multiply_flipped_eq_ok hcomm hA hB hc⟩

/-- A row of two components times a matrix, in floating point: the product is `(7, 10)`, and the other
product is a column. -/
theorem product_of_transposes_of_row :
    let row : MatrixLike Float := vec ⟨2, #v[1, 2], .row, 0.5⟩
    let table : MatrixLike Float := mat ⟨2, 2, Grid.ofFn ![![1, 2], ![3, 4]], 1e-9⟩
    (∀ x y : Float, x * y = y * x) ∧ row.toMat.IsMadeUnder 0.5 ∧ table.toMat.IsMadeUnder 1e-9 ∧
      ∃ row' table' c t, row.transpose = .ok row' ∧ table.transpose = .ok table' ∧
        row.multiply table = .ok c ∧ c.elements.toList = [7, 10] ∧ c.transpose = .ok t ∧
        table'.multiply row' = .ok ⟨t.rows, t.columns, t.elements, 1e-9⟩ := by
  intro row table
  have hmade : Mat.ofGrid row.toMat.elements 0.5 = .ok row.toMat := rfl
  have hmade' : Mat.ofGrid table.toMat.elements 1e-9 = .ok table.toMat := rfl
  have hrow := Mat.isMadeUnder_of_ofGrid_eq_ok hmade
  have htable := Mat.isMadeUnder_of_ofGrid_eq_ok hmade'
  obtain ⟨row', table', hrow', htable', -, -, hproduct⟩ :=
    product_of_transposes FloatingPoint.mul_swap hrow htable
  obtain ⟨c, hc, hentries⟩ : ∃ c, row.multiply table = .ok c ∧ c.elements.toList = [7, 10] :=
    exists_eq_ok_of_any (by decide +kernel)
  obtain ⟨-, -, -, t, ht, hother⟩ := hproduct c hc
  exact ⟨FloatingPoint.mul_swap, hrow, htable, row', table', c, t, hrow', htable', hc, hentries, ht,
    hother⟩

end MatrixLike

end LinearSystems
