import Mathlib
import LinearSystems.Proofs.Elimination.ReducedSystem

/-!
# The null space of a reduced table

Each direction of a reduced table has a one at its own free column and a zero at the others, so a
sum of directions shows its weights at the free columns.  **The directions are a basis of the null
space** (`linearIndependent_direction`, `Grid.IsReduced.span_direction`), and the points they reach
from the pivot point are the solutions, each reached once (`Grid.IsReduced.bijOn_pointAt`).

The null space of a solvable system can be read off its solutions (`ker_eq_of_solutionSet_eq`),
which carries the statement from the reduced table back to the table that the elimination started
from.
-/

namespace LinearSystems

variable {m d : Nat}

section Directions

variable (pivots : List (Pivot m d)) (g : Grid ℚ m d) (b : Vector ℚ m)

/-- The `k`-th column without a pivot. -/
def freeColumn (k : Fin (freeColumns pivots).length) : Fin d := (freeColumns pivots).get k

/-- The direction of the `k`-th free column. -/
def direction (k : Fin (freeColumns pivots).length) : Fin d → ℚ :=
  (freeDirection pivots g (freeColumn pivots k)).get

/-- The point that the weights reach from the pivot point. -/
def pointAt (t : Fin (freeColumns pivots).length → ℚ) : Fin d → ℚ :=
  (pivotPoint pivots b).get + ∑ k, t k • direction pivots g k

variable {pivots} {g} {b}

theorem freeColumn_notMem (k : Fin (freeColumns pivots).length) :
    freeColumn pivots k ∉ pivots.map Prod.snd :=
  mem_freeColumns.1 (List.get_mem _ k)

theorem freeColumn_injective : Function.Injective (freeColumn pivots) :=
  List.nodup_iff_injective_get.1 (nodup_freeColumns pivots)

theorem exists_freeColumn_eq {j : Fin d} (hj : j ∉ pivots.map Prod.snd) :
    ∃ k, freeColumn pivots k = j :=
  List.get_of_mem (mem_freeColumns.2 hj)

theorem direction_freeColumn_self (k : Fin (freeColumns pivots).length) :
    direction pivots g k (freeColumn pivots k) = 1 :=
  get_freeDirection_self _

theorem direction_freeColumn_of_ne {k l : Fin (freeColumns pivots).length} (h : l ≠ k) :
    direction pivots g k (freeColumn pivots l) = 0 :=
  get_freeDirection_of_notMem (freeColumn_notMem l) fun heq => h (freeColumn_injective heq)

/-- A sum of directions shows its weights at the free columns. -/
theorem sum_direction_freeColumn (t : Fin (freeColumns pivots).length → ℚ)
    (l : Fin (freeColumns pivots).length) :
    (∑ k, t k • direction pivots g k) (freeColumn pivots l) = t l := by
  have hother (k : Fin (freeColumns pivots).length) (hk : k ≠ l) :
      (t k • direction pivots g k) (freeColumn pivots l) = 0 := by
    rw [Pi.smul_apply, direction_freeColumn_of_ne hk.symm, smul_zero]
  rw [Finset.sum_apply, Fintype.sum_eq_single l hother, Pi.smul_apply, direction_freeColumn_self,
    smul_eq_mul, mul_one]

theorem pointAt_freeColumn (t : Fin (freeColumns pivots).length → ℚ)
    (l : Fin (freeColumns pivots).length) :
    pointAt pivots g b t (freeColumn pivots l) = t l := by
  rw [pointAt, Pi.add_apply, get_pivotPoint_of_notMem (freeColumn_notMem l),
    sum_direction_freeColumn, zero_add]

theorem linearIndependent_direction : LinearIndependent ℚ (direction pivots g) := by
  rw [Fintype.linearIndependent_iff]
  intro t hsum l
  rw [← sum_direction_freeColumn (g := g) t l, hsum]
  rfl

end Directions

/-! ## Directions and solutions of a reduced table -/

namespace Grid.IsReduced

variable {g : Grid ℚ m d} {b : Vector ℚ m} {pivots : List (Pivot m d)}

theorem direction_mem_ker (h : g.IsReduced pivots) (k : Fin (freeColumns pivots).length) :
    direction pivots g k ∈ LinearMap.ker g.toMatrix.mulVecLin :=
  LinearMap.mem_ker.2 (h.mulVec_freeDirection (freeColumn_notMem k))

theorem sum_direction_mem_ker (h : g.IsReduced pivots)
    (t : Fin (freeColumns pivots).length → ℚ) :
    ∑ k, t k • direction pivots g k ∈ LinearMap.ker g.toMatrix.mulVecLin :=
  Submodule.sum_mem _ fun k _ => Submodule.smul_mem _ (t k) (h.direction_mem_ker k)

/-- Two vectors that differ by the null space and have the same free coordinates are equal. -/
theorem eq_of_sub_mem_ker (h : g.IsReduced pivots) {x y : Fin d → ℚ}
    (hker : x - y ∈ LinearMap.ker g.toMatrix.mulVecLin)
    (hfree : ∀ l, x (freeColumn pivots l) = y (freeColumn pivots l)) : x = y := by
  have hzero : x - y = 0 := by
    apply h.eq_zero_of_mulVec_eq_zero (LinearMap.mem_ker.1 hker)
    intro j hj
    obtain ⟨l, rfl⟩ := exists_freeColumn_eq hj
    rw [Pi.sub_apply, hfree l, sub_self]
  exact sub_eq_zero.1 hzero

/-- **The directions span the null space.** -/
theorem span_direction (h : g.IsReduced pivots) :
    Submodule.span ℚ (Set.range (direction pivots g)) = LinearMap.ker g.toMatrix.mulVecLin := by
  apply le_antisymm
  · rw [Submodule.span_le]
    rintro _ ⟨k, rfl⟩
    exact h.direction_mem_ker k
  · intro x hx
    -- Weighted by the free coordinates of `x` the directions add up to `x`.
    have hsum : ∑ k, x (freeColumn pivots k) • direction pivots g k = x :=
      h.eq_of_sub_mem_ker (Submodule.sub_mem _ (h.sum_direction_mem_ker _) hx) fun l =>
        sum_direction_freeColumn _ l
    rw [← hsum]
    exact Submodule.sum_mem _ fun k _ =>
      Submodule.smul_mem _ _ (Submodule.subset_span (Set.mem_range_self k))

/-- The nullity is the number of free columns. -/
theorem finrank_ker (h : g.IsReduced pivots) :
    Module.finrank ℚ (LinearMap.ker g.toMatrix.mulVecLin) = (freeColumns pivots).length := by
  rw [← h.span_direction, finrank_span_eq_card linearIndependent_direction, Fintype.card_fin]

/-- **Every solution is reached by exactly one choice of weights**, provided there is one at all. -/
theorem bijOn_pointAt (h : g.IsReduced pivots)
    (hrest : ∀ i : Fin m, pivots.length ≤ i → b.get i = 0) :
    Set.BijOn (pointAt pivots g b) Set.univ (solutionSet g b) := by
  have hbase := h.mulVec_pivotPoint hrest
  have hpoint (t : Fin (freeColumns pivots).length → ℚ) :
      g.toMatrix.mulVec (pointAt pivots g b t) = b.get := by
    have hzero := LinearMap.mem_ker.1 (h.sum_direction_mem_ker t)
    rw [Matrix.mulVecLin_apply] at hzero
    rw [pointAt, Matrix.mulVec_add, hbase, hzero, add_zero]
  refine ⟨fun t _ => hpoint t, ?_, ?_⟩
  · intro t _ u _ heq
    funext l
    rw [← pointAt_freeColumn (g := g) (b := b) t l, heq, pointAt_freeColumn]
  · intro x hx
    refine ⟨fun k => x (freeColumn pivots k), Set.mem_univ _, ?_⟩
    apply h.eq_of_sub_mem_ker
    · rw [LinearMap.mem_ker, Matrix.mulVecLin_apply, Matrix.mulVec_sub, hpoint, hx, sub_self]
    · exact fun l => pointAt_freeColumn _ l

end Grid.IsReduced

/-! ## Back to the table that was reduced -/

/-- Solvable systems with the same solutions have the same null space. -/
theorem ker_eq_of_solutionSet_eq {n : Nat} {A : Grid ℚ m d} {b : Vector ℚ m} {g : Grid ℚ n d}
    {c : Vector ℚ n} (hsame : solutionSet A b = solutionSet g c)
    (hne : (solutionSet A b).Nonempty) :
    LinearMap.ker A.toMatrix.mulVecLin = LinearMap.ker g.toMatrix.mulVecLin := by
  obtain ⟨x, hx⟩ := hne
  have hx' : x ∈ solutionSet g c := hsame ▸ hx
  have hshift (y : Fin d → ℚ) : x + y ∈ solutionSet A b ↔ x + y ∈ solutionSet g c := by
    rw [hsame]
  ext y
  have hA : x + y ∈ solutionSet A b ↔ A.toMatrix.mulVec y = 0 := by
    show A.toMatrix.mulVec (x + y) = b.get ↔ _
    rw [Matrix.mulVec_add, hx, add_eq_left]
  have hg : x + y ∈ solutionSet g c ↔ g.toMatrix.mulVec y = 0 := by
    show g.toMatrix.mulVec (x + y) = c.get ↔ _
    rw [Matrix.mulVec_add, hx', add_eq_left]
  exact (hA.symm.trans (hshift y)).trans hg

/-- Rank and nullity. -/
theorem rank_add_finrank_ker (A : Grid ℚ m d) :
    A.toMatrix.rank + Module.finrank ℚ (LinearMap.ker A.toMatrix.mulVecLin) = d :=
  A.toMatrix.mulVecLin.finrank_range_add_finrank_ker.trans (Module.finrank_fin_fun ℚ)

end LinearSystems
