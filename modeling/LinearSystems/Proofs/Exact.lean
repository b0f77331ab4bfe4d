import Mathlib
import LinearSystems.LinearSystem
import LinearSystems.Proofs.Answers

/-!
# Exact arithmetic

The rational numbers as scalars.  Every operation is exact and no value is undefined or infinite, so
the three zero tests are statements about `|x|`, and a constructor can only fail for an extent of
zero or for a tolerance that is not positive.

What follows the instance is what the constructors answer, columns (`Vec.ofComponents_eq_ok`) and
systems (`LinearSystem.ofArrays_eq_ok`), and that a sum of products is a dot product
(`sumOfProducts_rat`).
-/

namespace LinearSystems

instance exactScalar : Scalar ℚ where
  abs x := |x|
  isNaN _ := false
  isInf _ := false
  decideLt _ _ := inferInstance
  decideLe _ _ := inferInstance

namespace Scalar

@[simp] theorem isFinite_rat (x : ℚ) : isFinite x = true := rfl

@[simp] theorem isSmall_rat_iff {τ x : ℚ} : isSmall τ x = true ↔ |x| < τ :=
  decide_eq_true_iff

@[simp] theorem isSignificant_rat_iff {τ x : ℚ} : isSignificant τ x = true ↔ τ ≤ |x| :=
  decide_eq_true_iff

theorem isSignificant_rat_eq_false_iff {τ x : ℚ} : isSignificant τ x = false ↔ |x| < τ := by
  rw [← Bool.not_eq_true, isSignificant_rat_iff, not_le]

@[simp] theorem isZero_rat_iff {τ x : ℚ} : isZero x τ = true ↔ |x| < τ := by
  simp [isZero, abs_lt]

/-- A significant value is never read as zero. -/
theorem isZero_rat_of_isSignificant {τ x : ℚ} (h : isSignificant τ x = true) :
    isZero x τ = false := by
  rw [← Bool.not_eq_true, isZero_rat_iff, not_lt]
  exact isSignificant_rat_iff.1 h

theorem isSignificant_rat_zero {τ : ℚ} (hτ : 0 < τ) : isSignificant τ (0 : ℚ) = false := by
  rw [isSignificant_rat_eq_false_iff, abs_zero]
  exact hτ

/-- In exact arithmetic only zero vanishes. -/
theorem vanishes_rat_iff {x : ℚ} : vanishes x = true ↔ x = 0 := by
  rw [vanishes, Bool.or_eq_true, beq_iff_eq]
  exact or_iff_left Bool.false_ne_true

end Scalar

/-- The zero tests of exact arithmetic are lawful. -/
instance : LawfulCleaning ℚ where
  isZero_of_isSignificant := Scalar.isZero_rat_of_isSignificant
  isSignificant_zero := Scalar.isSignificant_rat_zero
  vanishes_zero := Scalar.vanishes_rat_iff.2 rfl
  isSignificant_of_vanishes hτ hx := by
    rw [Scalar.vanishes_rat_iff.1 hx]
    exact Scalar.isSignificant_rat_zero hτ
  vanishes_add_mul c hx hy := by
    rw [Scalar.vanishes_rat_iff] at hx hy ⊢
    rw [hx, hy, mul_zero, add_zero]
  vanishes_mul c hx := by
    rw [Scalar.vanishes_rat_iff] at hx ⊢
    rw [hx, zero_mul]
  isSmall_of_beq_zero hτ hx := by
    rw [Scalar.isSmall_rat_iff, eq_of_beq hx, abs_zero]
    exact hτ

theorem Tolerance.require_eq_ok {τ : ℚ} (hτ : 0 < τ) : Tolerance.require τ = .ok τ := by
  simp [Tolerance.require, hτ]

namespace Vec

/-- The column with these components. -/
def column {d : Nat} (x : Fin d → ℚ) (τ : ℚ) : Vec ℚ := ⟨d, Vector.ofFn x, .column, τ⟩

@[simp] theorem toList_column {d : Nat} (x : Fin d → ℚ) (τ : ℚ) :
    (column x τ).toList = List.ofFn x :=
  Vector.toList_ofFn

theorem column_eq_of_cast {n d : Nat} (h : n = d) {x : Fin n → ℚ} {y : Fin d → ℚ} {τ : ℚ}
    (hxy : ∀ i, x i = y (i.cast h)) : column x τ = column y τ := by
  subst h
  rw [funext hxy]
  rfl

theorem ofComponents_eq_ok {d : Nat} (hd : 0 < d) (x : Vector ℚ d) {τ : ℚ} (hτ : 0 < τ) :
    ofComponents x τ = .ok (column x.get τ) := by
  have hx : Vector.ofFn x.get = x := by
    apply Vector.ext
    intro i hi
    simp [Vector.get]
  rw [column, hx]
  exact ofComponents_eq_ok_of_finite hd (Tolerance.require_eq_ok hτ) fun i => Scalar.isFinite_rat _

end Vec

/-- Added from the left onto zero, the products add up to the dot product. -/
theorem sumOfProducts_rat {n : Nat} (u w : Fin n → ℚ) : sumOfProducts u w = u ⬝ᵥ w := by
  rw [sumOfProducts, dotProduct, Fin.sum_univ_def, List.sum_eq_foldl, List.foldl_map]

namespace LinearSystem

theorem rowEquation_eq_ok {m d : Nat} (hd : 0 < d) (A : Grid ℚ m d) (b : Vector ℚ m) {τ : ℚ}
    (hτ : 0 < τ) (i : Fin m) :
    rowEquation A b τ i = .ok ⟨Vec.column (A.row i).get τ, b.get i, .general⟩ := by
  simp [rowEquation, Vec.ofComponents_eq_ok hd _ hτ, LinearEquation.ofNormal, Vec.isHorizontal,
    Vec.column, bind, Except.bind, pure, Except.pure]

/-- Every rational system with at least one unknown and a positive tolerance can be built. -/
theorem ofArrays_eq_ok {m d : Nat} (hd : 0 < d) (A : Grid ℚ m d) (b : Vector ℚ m) {τ : ℚ}
    (hτ : 0 < τ) :
    ofArrays A b τ = .ok ⟨m, d, A, b, τ, (List.finRange m).map fun i =>
      ⟨Vec.column (A.row i).get τ, b.get i, .general⟩⟩ := by
  have hrows : rowEquation A b τ =
      fun i => pure ⟨Vec.column (A.row i).get τ, b.get i, .general⟩ :=
    funext fun i => rowEquation_eq_ok hd A b hτ i
  rw [ofArrays, hrows, List.mapM_pure]
  rfl

end LinearSystem

end LinearSystems
