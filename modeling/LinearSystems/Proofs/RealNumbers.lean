import Mathlib
import LinearSystems.Proofs.Geometry.Operations

/-!
# Real numbers

The real numbers as scalars, with the exact square root.  No value is undefined or infinite, so the
zero tests are statements about `|x|`, a sum of products is a dot product
(`sumOfProducts_real`), a magnitude is the Euclidean length (`Vec.magnitude_real`), and a vector
with a component and a positive tolerance can always be made (`Vec.ofComponents_real`).
-/

namespace LinearSystems

noncomputable instance realScalar : RootedScalar ℝ where
  abs x := |x|
  isNaN _ := false
  isInf _ := false
  decideLt _ _ := inferInstance
  decideLe _ _ := inferInstance
  sqrt := Real.sqrt

namespace Scalar

@[simp] theorem isFinite_real (x : ℝ) : isFinite x = true := rfl

@[simp] theorem isSmall_real_iff {τ x : ℝ} : isSmall τ x = true ↔ |x| < τ :=
  decide_eq_true_iff

@[simp] theorem isSignificant_real_iff {τ x : ℝ} : isSignificant τ x = true ↔ τ ≤ |x| :=
  decide_eq_true_iff

@[simp] theorem isZero_real_iff {τ x : ℝ} : isZero x τ = true ↔ |x| < τ := by
  simp [isZero, abs_lt]

end Scalar

/-- Added from the left onto zero, the products add up to the dot product. -/
theorem sumOfProducts_real {n : Nat} (u w : Fin n → ℝ) : sumOfProducts u w = u ⬝ᵥ w := by
  rw [sumOfProducts, dotProduct, Fin.sum_univ_def, List.sum_eq_foldl, List.foldl_map]

theorem Tolerance.require_real {τ : ℝ} (hτ : 0 < τ) : Tolerance.require τ = .ok τ := by
  simp [Tolerance.require, hτ]

namespace Vec

variable {n : Nat} {τ : ℝ}

theorem ofComponents_real {o : Orientation} (hn : 0 < n) (hτ : 0 < τ) (x : Vector ℝ n) :
    ofComponents x τ o = .ok ⟨n, x, o, τ⟩ :=
  ofComponents_eq_ok_of_finite hn (Tolerance.require_real hτ) fun _ => Scalar.isFinite_real _

/-- The Euclidean length of a family of numbers. -/
noncomputable def euclidean (x : Fin n → ℝ) : ℝ := √(∑ k, x k ^ 2)

theorem magnitude_real (x : Vector ℝ n) (o : Orientation) :
    (⟨n, x, o, τ⟩ : Vec ℝ).magnitude = euclidean x.get := by
  have hsum : x.get ⬝ᵥ x.get = ∑ k, x.get k ^ 2 := by simp [dotProduct, sq]
  exact congrArg Real.sqrt ((sumOfProducts_real _ _).trans hsum)

theorem sq_euclidean (x : Fin n → ℝ) : euclidean x ^ 2 = ∑ k, x k ^ 2 :=
  Real.sq_sqrt (Finset.sum_nonneg fun k _ => sq_nonneg (x k))

theorem isZero_real_eq_false_iff {x : Vector ℝ n} {o : Orientation} :
    (⟨n, x, o, τ⟩ : Vec ℝ).isZero = false ↔ ∃ i, τ ≤ |x.get i| := by
  rw [isZero_eq_false_iff]
  simp only [← Bool.not_eq_true, Scalar.isSmall_real_iff, not_lt]

/-- What is not zero within a positive tolerance has a positive length. -/
theorem euclidean_pos (hτ : 0 < τ) {x : Vector ℝ n} {o : Orientation}
    (h : (⟨n, x, o, τ⟩ : Vec ℝ).isZero = false) : 0 < euclidean x.get := by
  obtain ⟨i, hi⟩ := isZero_real_eq_false_iff.1 h
  have hne : x.get i ≠ 0 := abs_pos.1 (hτ.trans_le hi)
  apply Real.sqrt_pos.2
  exact Finset.sum_pos' (fun k _ => sq_nonneg (x.get k)) ⟨i, Finset.mem_univ i, by positivity⟩

end Vec

end LinearSystems
