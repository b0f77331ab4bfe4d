import Mathlib
import LinearSystems.Proofs.Geometry.Operations
import LinearSystems.Proofs.RealNumbers

/-!
# Parallel vectors

Two vectors count as parallel when their directions, the vectors divided by their lengths, agree
component by component within the tolerance, as they are or with one of them turned around
(`Vec.isParallel_real`).  In exact arithmetic:

* a multiple has the same direction or the opposite one (`Vec.agreeUpToSign_of_smul`), so the test
  accepts every multiple;
* directions that agree have small minors (`Vec.sq_minor_le_of_agreeUpToSign`), so the test accepts
  nothing that is far from a multiple, in any dimension;
* the test does not depend on the order of the two vectors (`Vec.AgreeUpToSign.symm`).
-/

namespace LinearSystems

namespace Vec

variable {n : Nat} {τ : ℝ}

/-! ## Directions -/

/-- The components divided by the length. -/
noncomputable def direction (x : Fin n → ℝ) : Fin n → ℝ := fun i => x i / euclidean x

theorem direction_mul_euclidean {x : Fin n → ℝ} (hx : 0 < euclidean x) (i : Fin n) :
    direction x i * euclidean x = x i :=
  div_mul_cancel₀ (x i) hx.ne'

theorem abs_le_euclidean (x : Fin n → ℝ) (i : Fin n) : |x i| ≤ euclidean x := by
  apply Real.abs_le_sqrt
  exact Finset.single_le_sum (f := fun k => x k ^ 2) (fun k _ => sq_nonneg (x k))
    (Finset.mem_univ i)

theorem abs_direction_le_one {x : Fin n → ℝ} (hx : 0 < euclidean x) (i : Fin n) :
    |direction x i| ≤ 1 := by
  rw [direction, abs_div, abs_of_pos hx, div_le_one hx]
  exact abs_le_euclidean x i

theorem euclidean_smul (c : ℝ) (x : Fin n → ℝ) :
    euclidean (fun i => c * x i) = |c| * euclidean x := by
  simp only [euclidean, mul_pow, ← Finset.mul_sum]
  rw [Real.sqrt_mul (sq_nonneg c), Real.sqrt_sq_eq_abs]

/-- A positive multiple has the same direction, a negative one the opposite direction. -/
theorem direction_smul {c : ℝ} (x : Fin n → ℝ) (i : Fin n) :
    direction (fun i => c * x i) i = c / |c| * direction x i := by
  rw [direction, direction, euclidean_smul, mul_div_mul_comm]

/-- The directions differ by less than the tolerance in every component, or their opposites do. -/
def AgreeUpToSign (τ : ℝ) (u w : Fin n → ℝ) : Prop :=
  (∀ i, |u i - w i| < τ) ∨ ∀ i, |u i + w i| < τ

noncomputable instance (u w : Fin n → ℝ) : Decidable (AgreeUpToSign τ u w) :=
  inferInstanceAs (Decidable (_ ∨ _))

theorem AgreeUpToSign.symm {u w : Fin n → ℝ} (h : AgreeUpToSign τ u w) : AgreeUpToSign τ w u := by
  rcases h with h | h
  · exact Or.inl fun i => (abs_sub_comm (w i) (u i)).trans_lt (h i)
  · exact Or.inr fun i => by simpa only [add_comm] using h i

theorem agreeUpToSign_comm {u w : Fin n → ℝ} : AgreeUpToSign τ u w ↔ AgreeUpToSign τ w u :=
  ⟨.symm, .symm⟩

theorem agreeUpToSign_of_smul (hτ : 0 < τ) {x y : Fin n → ℝ} {c : ℝ} (hc : c ≠ 0)
    (h : ∀ i, y i = c * x i) : AgreeUpToSign τ (direction x) (direction y) := by
  obtain rfl : y = fun i => c * x i := funext h
  rcases hc.lt_or_gt with hneg | hpos
  · right
    intro i
    rw [direction_smul, abs_of_neg hneg, div_neg, div_self hc, neg_one_mul, add_neg_cancel,
      abs_zero]
    exact hτ
  · left
    intro i
    rw [direction_smul, abs_of_pos hpos, div_self hc, one_mul, sub_self, abs_zero]
    exact hτ

/-! ## Minors -/

/-- Where `w` is near to `s u`, the minors of the two are small: subtracting `s u` from `w` does not
change them. -/
theorem abs_minor_le {u w : Fin n → ℝ} {s : ℝ} (hu : ∀ i, |u i| ≤ 1)
    (h : ∀ i, |w i - s * u i| ≤ τ) (i j : Fin n) : |u i * w j - u j * w i| ≤ 2 * τ := by
  have hminor : u i * w j - u j * w i = u i * (w j - s * u j) - u j * (w i - s * u i) := by ring
  calc |u i * w j - u j * w i|
      ≤ |u i * (w j - s * u j)| + |u j * (w i - s * u i)| := by
        rw [hminor]
        exact abs_sub _ _
    _ = |u i| * |w j - s * u j| + |u j| * |w i - s * u i| := by rw [abs_mul, abs_mul]
    _ ≤ 1 * τ + 1 * τ := by
        gcongr
        · exact hu i
        · exact h j
        · exact hu j
        · exact h i
    _ = 2 * τ := by ring

theorem AgreeUpToSign.abs_minor_le {u w : Fin n → ℝ} (hu : ∀ i, |u i| ≤ 1)
    (h : AgreeUpToSign τ u w) (i j : Fin n) : |u i * w j - u j * w i| ≤ 2 * τ := by
  rcases h with h | h
  · apply Vec.abs_minor_le (s := 1) hu
    intro k
    rw [one_mul, abs_sub_comm]
    exact (h k).le
  · apply Vec.abs_minor_le (s := -1) hu
    intro k
    rw [neg_one_mul, sub_neg_eq_add, add_comm]
    exact (h k).le

/-- **Vectors whose directions agree have minors that are small against their lengths.** -/
theorem sq_minor_le_of_agreeUpToSign {x y : Fin n → ℝ} (hx : 0 < euclidean x)
    (hy : 0 < euclidean y) (h : AgreeUpToSign τ (direction x) (direction y)) (i j : Fin n) :
    (x i * y j - x j * y i) ^ 2 ≤ 4 * τ ^ 2 * (∑ k, x k ^ 2) * ∑ k, y k ^ 2 := by
  have hminor := h.abs_minor_le (abs_direction_le_one hx) i j
  have hscaled : x i * y j - x j * y i =
      (direction x i * direction y j - direction x j * direction y i) *
        (euclidean x * euclidean y) := by
    rw [← direction_mul_euclidean hx i, ← direction_mul_euclidean hx j,
      ← direction_mul_euclidean hy i, ← direction_mul_euclidean hy j]
    ring
  calc (x i * y j - x j * y i) ^ 2
      = |direction x i * direction y j - direction x j * direction y i| ^ 2 *
          (euclidean x * euclidean y) ^ 2 := by rw [hscaled, mul_pow, sq_abs]
    _ ≤ (2 * τ) ^ 2 * (euclidean x * euclidean y) ^ 2 := by gcongr
    _ = 4 * τ ^ 2 * (∑ k, x k ^ 2) * ∑ k, y k ^ 2 := by
        rw [mul_pow (euclidean x), sq_euclidean, sq_euclidean]
        ring

/-! ## The test -/

variable {x y : Vector ℝ n} {o o' : Orientation} {σ : ℝ}

theorem near_real (f : ℝ → ℝ → ℝ) :
    near τ f x y (euclidean x.get) (euclidean y.get) =
      decide (∀ i, |f (direction x.get i) (direction y.get i)| < τ) := by
  rw [Bool.eq_iff_iff, decide_eq_true_iff]
  simp [near, direction]

/-- **What the test decides, for vectors that are not zero within their tolerance.** -/
theorem isParallel_real (hx : (⟨n, x, o, τ⟩ : Vec ℝ).isZero = false)
    (hy : (⟨n, y, o', σ⟩ : Vec ℝ).isZero = false) :
    (⟨n, x, o, τ⟩ : Vec ℝ).isParallel ⟨n, y, o', σ⟩ =
      .ok (decide (AgreeUpToSign τ (direction x.get) (direction y.get))) := by
  rw [isParallel_mk hx hy, magnitude_real, magnitude_real, near_real, near_real, ← Bool.decide_or]
  rfl

/-- **The test does not depend on the order of the vectors, it accepts every multiple, and what it
accepts has small minors against the lengths of the vectors.** -/
theorem isParallel_comm_and_sq_minor_le (hτ : 0 < τ)
    (hx : (⟨n, x, o, τ⟩ : Vec ℝ).isZero = false) (hy : (⟨n, y, o', τ⟩ : Vec ℝ).isZero = false) :
    (∃ p, (⟨n, x, o, τ⟩ : Vec ℝ).isParallel ⟨n, y, o', τ⟩ = .ok p ∧
      (⟨n, y, o', τ⟩ : Vec ℝ).isParallel ⟨n, x, o, τ⟩ = .ok p) ∧
    (∀ c : ℝ, c ≠ 0 → (∀ i, y.get i = c * x.get i) →
      (⟨n, x, o, τ⟩ : Vec ℝ).isParallel ⟨n, y, o', τ⟩ = .ok true) ∧
    ((⟨n, x, o, τ⟩ : Vec ℝ).isParallel ⟨n, y, o', τ⟩ = .ok true →
      ∀ i j, (x.get i * y.get j - x.get j * y.get i) ^ 2 ≤
        4 * τ ^ 2 * (∑ k, x.get k ^ 2) * ∑ k, y.get k ^ 2) := by
  rw [isParallel_real hx hy, isParallel_real hy hx]
  refine ⟨⟨_, rfl, ?_⟩, fun c hc hmultiple => ?_, fun hparallel i j => ?_⟩
  · rw [decide_eq_decide.2 agreeUpToSign_comm]
  · rw [decide_eq_true (agreeUpToSign_of_smul hτ hc hmultiple)]
  · have hagree := of_decide_eq_true (Except.ok.inj hparallel)
    exact sq_minor_le_of_agreeUpToSign (euclidean_pos hτ hx) (euclidean_pos hτ hy) hagree i j

/-- `(3, 4)` as a column and `(-6, -8)` as a row. -/
theorem isParallel_of_opposite_multiple :
    (⟨2, #v[3, 4], .column, 1⟩ : Vec ℝ).isZero = false ∧
    (⟨2, #v[-6, -8], .row, 1⟩ : Vec ℝ).isZero = false ∧
    (⟨2, #v[3, 4], .column, 1⟩ : Vec ℝ).isParallel ⟨2, #v[-6, -8], .row, 1⟩ = .ok true := by
  have hx : (⟨2, #v[3, 4], .column, 1⟩ : Vec ℝ).isZero = false :=
    isZero_real_eq_false_iff.2 ⟨0, by norm_num [Vector.get]⟩
  have hy : (⟨2, #v[-6, -8], .row, 1⟩ : Vec ℝ).isZero = false :=
    isZero_real_eq_false_iff.2 ⟨0, by norm_num [Vector.get]⟩
  refine ⟨hx, hy, (isParallel_comm_and_sq_minor_le one_pos hx hy).2.1 (-2) (by norm_num) fun i => ?_⟩
  fin_cases i <;> norm_num [Vector.get]

end Vec

end LinearSystems
