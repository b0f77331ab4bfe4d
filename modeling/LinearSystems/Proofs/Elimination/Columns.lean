import Mathlib
import LinearSystems.Proofs.Elimination.Canonical
import LinearSystems.Proofs.Parametrization.NullSpace
import LinearSystems.Solution

/-!
# Which columns get a pivot

A column is a combination of the columns left of it exactly if some null vector ends in it with a
one (`Grid.dependsOnLeft_iff`).  So the null space tells the columns apart, and what keeps it, keeps
them apart: **a column of a reduced table has a pivot exactly if, in any table with the same null
space, it is no combination of the columns left of it** (`Grid.IsReduced.dependsOnLeft_iff`).

For all small tolerances the two passes keep the null space.  Then the pivots of a solve can be told
from the matrix alone: their columns, their number, which is the rank, and the free variables
(`Elimination.pivots_are_independent_columns`).
-/

namespace LinearSystems

open Filter Topology

variable {m n d : Nat}

namespace Grid

/-- The column is a linear combination of the columns left of it. -/
def DependsOnLeft (A : Grid ℚ m d) (j : Fin d) : Prop :=
  A.toMatrix.col j ∈ Submodule.span ℚ (A.toMatrix.col '' Set.Iio j)

/-- The weights of a combination of unit vectors left of a column. -/
theorem mem_span_units_iff {j : Fin d} {y : Fin d → ℚ} :
    y ∈ Submodule.span ℚ (Pi.basisFun ℚ (Fin d) '' Set.Iio j) ↔ ∀ k, j ≤ k → y k = 0 := by
  rw [Module.Basis.mem_span_image]
  constructor
  · intro hsupport k hk
    by_contra hne
    exact absurd (hsupport (Finsupp.mem_support_iff.2 hne)) (not_lt.2 hk)
  · intro hzero k hk
    by_contra hle
    exact Finsupp.mem_support_iff.1 hk (hzero k (not_lt.1 hle))

theorem image_units (A : Grid ℚ m d) (s : Set (Fin d)) :
    A.toMatrix.mulVecLin '' (Pi.basisFun ℚ (Fin d) '' s) = A.toMatrix.col '' s := by
  rw [Set.image_image]
  apply Set.image_congr
  intro k _
  rw [Pi.basisFun_apply, Matrix.mulVecLin_apply, Matrix.mulVec_single_one]

/-- A combination of the columns left of a column has a vector of weights. -/
theorem dependsOnLeft_iff_exists_mulVec (A : Grid ℚ m d) (j : Fin d) :
    A.DependsOnLeft j ↔
      ∃ y, (∀ k, j ≤ k → y k = 0) ∧ A.toMatrix.mulVec y = A.toMatrix.col j := by
  rw [DependsOnLeft, ← image_units, ← Submodule.map_span, Submodule.mem_map]
  simp only [mem_span_units_iff, Matrix.mulVecLin_apply]

/-- **A column depends on the columns left of it exactly if a null vector ends in it.** -/
theorem dependsOnLeft_iff (A : Grid ℚ m d) (j : Fin d) :
    A.DependsOnLeft j ↔
      ∃ x ∈ LinearMap.ker A.toMatrix.mulVecLin, x j = 1 ∧ ∀ k, j < k → x k = 0 := by
  have hcolumn : A.toMatrix.mulVec (Pi.single j 1) = A.toMatrix.col j :=
    A.toMatrix.mulVec_single_one j
  rw [dependsOnLeft_iff_exists_mulVec]
  -- The weights and the null vector add up to the unit vector of the column.
  constructor
  · rintro ⟨y, hright, hy⟩
    refine ⟨Pi.single j 1 - y, ?_, ?_, fun k hk => ?_⟩
    · rw [LinearMap.mem_ker, Matrix.mulVecLin_apply, Matrix.mulVec_sub, hcolumn, hy, sub_self]
    · rw [Pi.sub_apply, Pi.single_eq_same, hright j le_rfl, sub_zero]
    · rw [Pi.sub_apply, Pi.single_eq_of_ne hk.ne', hright k hk.le, sub_zero]
  · rintro ⟨x, hx, hone, hright⟩
    rw [LinearMap.mem_ker, Matrix.mulVecLin_apply] at hx
    refine ⟨Pi.single j 1 - x, fun k hk => ?_, ?_⟩
    · rcases hk.eq_or_lt with rfl | hlt
      · rw [Pi.sub_apply, Pi.single_eq_same, hone, sub_self]
      · rw [Pi.sub_apply, Pi.single_eq_of_ne hlt.ne', hright k hlt, sub_zero]
    · rw [Matrix.mulVec_sub, hx, hcolumn, sub_zero]

end Grid

namespace Grid.IsReduced

variable {g : Grid ℚ m d} {pivots : List (Pivot m d)} {A : Grid ℚ n d} (h : g.IsReduced pivots)
  (hker : LinearMap.ker A.toMatrix.mulVecLin = LinearMap.ker g.toMatrix.mulVecLin)

include h hker

/-- **The columns without a pivot depend on the columns left of them**, and only they do. -/
theorem dependsOnLeft_iff {j : Fin d} : A.DependsOnLeft j ↔ j ∉ pivots.map Prod.snd := by
  rw [Grid.dependsOnLeft_iff, hker]
  -- A null vector that ends in a pivot column is zero there; the direction of a column without a
  -- pivot ends in it.
  constructor
  · rintro ⟨x, hx, hone, hright⟩ hj
    obtain ⟨p, hp, rfl⟩ := List.mem_map.1 hj
    have hzero := h.apply_eq_zero_of_right hp (LinearMap.mem_ker.1 hx) hright
    exact one_ne_zero (hone.symm.trans hzero)
  · intro hfree
    exact ⟨_, LinearMap.mem_ker.2 (h.mulVec_freeDirection hfree), get_freeDirection_self j,
      fun k hk => h.freeDirection_eq_zero_of_lt hfree hk⟩

/-- **The number of pivots is the rank.** -/
theorem length_eq_rank : pivots.length = A.toMatrix.rank := by
  have hcolumns := h.length_add_length_freeColumns
  have hrank := rank_add_finrank_ker A
  rw [hker, h.finrank_ker] at hrank
  omega

end Grid.IsReduced

/-- The system of these arrays can be built, and its solve gives this solution with this report. -/
def Solution.Answers (solved : Solution ℚ) (A : Grid ℚ m d) (b : Vector ℚ m) (τ : ℚ)
    (r : Report ℚ m d) : Prop :=
  ∃ equations, LinearSystem.ofArrays A b τ = .ok ⟨m, d, A, b, τ, equations⟩ ∧
    LinearSystem.solve ⟨m, d, A, b, τ, equations⟩ = .ok solved ∧
    solved = ⟨⟨m, d, A, b, τ, equations⟩, r⟩

namespace Elimination

/-- For all small tolerances the passes end in a reduced form that keeps the null space. -/
theorem eventually_ker_gaussJordan (A : Grid ℚ m d) (b : Vector ℚ m) : ∀ᶠ τ in 𝓝[>] (0 : ℚ),
    (Tableau.gaussJordan τ ⟨A, b⟩).rows.IsReduced (Sweep.pivots τ ⟨A, b⟩) ∧
      LinearMap.ker A.toMatrix.mulVecLin =
        LinearMap.ker (Tableau.gaussJordan τ ⟨A, b⟩).rows.toMatrix.mulVecLin := by
  filter_upwards [Tableau.eventually_isReduced_gaussJordan ⟨A, b⟩,
    Tableau.eventually_rowSpace_gaussJordan ⟨A, b⟩] with τ hreduced hspace
  have hker := Tableau.ker_eq_of_rowSpace_eq hspace
  exact ⟨hreduced, hker.symm⟩

/-- **The pivots are in the columns that do not depend on the columns left of them**, for all small
tolerances.  So the rank that is reported is the rank, and the free variables are the columns that
do depend on the columns left of them, in order and counted from one. -/
theorem pivots_are_independent_columns (hd : 0 < d) (A : Grid ℚ m d) (b : Vector ℚ m) :
    ∃ τ₀ : ℚ, 0 < τ₀ ∧ ∀ τ, 0 < τ → τ ≤ τ₀ →
      ∃ solved r, Solution.Answers solved A b τ r ∧
        (∀ j, j ∈ r.pivots.map Prod.snd ↔ ¬ A.DependsOnLeft j) ∧
        solved.rank = A.toMatrix.rank ∧
        solved.freeVariables.Pairwise (· < ·) ∧
        ∀ v, v ∈ solved.freeVariables ↔ ∃ j : Fin d, v = j.val + 1 ∧ A.DependsOnLeft j := by
  apply exists_forall_of_eventually
  filter_upwards [self_mem_nhdsWithin, eventually_ker_gaussJordan A b] with τ hτ hker
  obtain ⟨hreduced, hker⟩ := hker
  obtain ⟨equations, hbuilt, hreport⟩ := reports_outcome hd hτ A b
  have hdepends (j : Fin d) := hreduced.dependsOnLeft_iff hker (j := j)
  refine ⟨⟨⟨m, d, A, b, τ, equations⟩, outcome τ ⟨A, b⟩⟩, outcome τ ⟨A, b⟩,
    ⟨equations, hbuilt, ?_, rfl⟩, fun j => ?_, hreduced.length_eq_rank hker, ?_, fun v => ?_⟩
  · rw [LinearSystem.solve, hreport]
    rfl
  · rw [hdepends j, not_not]
    rfl
  · rw [Solution.freeVariables, List.pairwise_map]
    exact ((List.pairwise_lt_finRange d).filter _).imp fun hlt => Nat.succ_lt_succ hlt
  · rw [Solution.freeVariables, List.mem_map]
    refine exists_congr fun j => ?_
    rw [mem_freeColumns, hdepends j, and_comm, eq_comm]
    rfl

/-- The second column is twice the first and the third is not: every small tolerance gives a
solution with no pivot in the second column, and the second variable is free. -/
theorem pivots_are_independent_columns_of_doubled_column :
    ∃ τ₀ : ℚ, 0 < τ₀ ∧ ∀ τ, 0 < τ → τ ≤ τ₀ →
      ∃ solved r, Solution.Answers solved (Grid.ofFn ![![1, 2, 0], ![1, 2, 1]])
          (Vector.ofFn ![3, 4]) τ r ∧ (1 : Fin 3) ∉ r.pivots.map Prod.snd ∧
        2 ∈ solved.freeVariables := by
  have hdepends : (Grid.ofFn ![![1, 2, 0], ![1, 2, 1]]).DependsOnLeft 1 := by
    have hdouble : (Grid.ofFn ![![1, 2, 0], ![1, 2, 1]]).toMatrix.col 1 =
        (2 : ℚ) • (Grid.ofFn ![![1, 2, 0], ![1, 2, 1]]).toMatrix.col 0 := by
      decide +kernel
    rw [Grid.DependsOnLeft, hdouble]
    exact Submodule.smul_mem _ _ (Submodule.subset_span ⟨0, by decide, rfl⟩)
  obtain ⟨τ₀, hτ₀, hsolve⟩ := pivots_are_independent_columns (by decide)
    (Grid.ofFn ![![1, 2, 0], ![1, 2, 1]]) (Vector.ofFn ![3, 4])
  refine ⟨τ₀, hτ₀, fun τ hτ hle => ?_⟩
  obtain ⟨solved, r, hsolved, hpivots, -, -, hfree⟩ := hsolve τ hτ hle
  exact ⟨solved, r, hsolved, fun hone => (hpivots 1).1 hone hdepends,
    (hfree 2).2 ⟨1, rfl, hdepends⟩⟩

end Elimination

end LinearSystems
