import Mathlib
import LinearSystems.Proofs.Elimination.Verdict
import LinearSystems.Proofs.Parametrization.NullSpace

/-!
# The points of a parametrization

`Parametrization.point` walks along the directions one after the other; with one parameter for each
it answers with the column of `pointAt` (`Parametrization.point_read`).

**For all small tolerances the parametrization of a system with several solutions runs through its
solutions, each once, and its directions are a basis of the null space**
(`Elimination.parametrization_describes_solutions`).
-/

namespace LinearSystems

open Filter Topology

variable {m d : Nat}

/-! ## Walking -/

namespace Parametrization

variable {τ : ℚ}

theorem advance_eq_ok (x v : Fin d → ℚ) (t : ℚ) :
    advance (List.ofFn x) t (Vec.column v τ) = .ok (List.ofFn (x + t • v)) := by
  have hsum : List.zipWith (· + ·) (List.ofFn x) (List.ofFn fun i => t * v i) =
      List.ofFn (x + t • v) := by
    apply List.ext_getElem
    · simp
    · intro i hi hi'
      simp
  have hlength : (List.ofFn x).length = ((Vec.column v τ).toList.map (t * ·)).length := by
    simp
  unfold advance addComponents
  rw [if_pos hlength, Vec.toList_column, List.map_ofFn]
  exact congrArg Except.ok hsum

/-- A walk adds one multiple of each direction. -/
theorem walk_eq_ok (x : Fin d → ℚ) {n : Nat} (t : Fin n → ℚ) (v : Fin n → Fin d → ℚ) :
    walk (List.ofFn x) (List.ofFn t) (List.ofFn fun k => Vec.column (v k) τ) =
      .ok (List.ofFn (x + ∑ k, t k • v k)) := by
  induction n generalizing x with
  | zero => simp [walk]
  | succ n ih =>
      rw [List.ofFn_succ, List.ofFn_succ, walk, advance_eq_ok]
      refine (ih _ (fun k => t k.succ) fun k => v k.succ).trans ?_
      rw [Fin.sum_univ_succ, add_assoc]

theorem columnOf_ofFn (hd : 0 < d) (hτ : 0 < τ) (x : Fin d → ℚ) :
    columnOf (List.ofFn x) τ = .ok (Vec.column x τ) := by
  have hlength : (List.ofFn x).length = d := List.length_ofFn
  have hpos : 0 < (List.ofFn x).length := by
    rw [hlength]
    exact hd
  rw [columnOf, Vec.ofComponents_eq_ok hpos _ hτ]
  refine congrArg Except.ok (Vec.column_eq_of_cast hlength fun i => ?_)
  show (List.ofFn x)[i.val] = _
  rw [List.getElem_ofFn]
  rfl

variable {g : Grid ℚ m d} {b : Vector ℚ m} {pivots : List (Pivot m d)}

theorem directions_read (hpivots : g.pivots τ = pivots) :
    (read τ g b).directions = List.ofFn fun k => Vec.column (direction pivots g k) τ := by
  subst hpivots
  apply List.ext_getElem
  · simp [read]
  · intro k hk hk'
    simp [read, direction, freeColumn]

/-- **The point at given parameters**, one for each free column. -/
theorem point_read (hd : 0 < d) (hτ : 0 < τ) (hpivots : g.pivots τ = pivots)
    (t : Fin (freeColumns pivots).length → ℚ) :
    (read τ g b).point (List.ofFn t) = .ok (Vec.column (pointAt pivots g b t) τ) := by
  have hcount : (List.ofFn t).length = (read τ g b).parameterCount := by
    rw [parameterCount, directions_read hpivots, List.length_ofFn, List.length_ofFn]
  have hbase : (read τ g b).basePoint = Vec.column (pivotPoint pivots b).get τ := by
    rw [← hpivots]
    rfl
  have hwalk : walk (read τ g b).basePoint.toList (List.ofFn t) (read τ g b).directions =
      .ok (List.ofFn (pointAt pivots g b t)) := by
    rw [hbase, directions_read hpivots, Vec.toList_column, walk_eq_ok, pointAt]
  rw [point, requireParameters, if_pos hcount, hwalk]
  exact columnOf_ofFn hd hτ _

end Parametrization

namespace Elimination

/-- **The parametrization describes the solutions, for all small tolerances**: with as many
parameters as the nullity it reaches every solution at exactly one choice of parameters, and its
directions are a basis of the null space. -/
theorem parametrization_describes_solutions {A : Grid ℚ m d} {b : Vector ℚ m}
    (hmany : (solutionSet A b).Nontrivial) :
    ∃ τ₀ : ℚ, 0 < τ₀ ∧ ∀ τ, 0 < τ → τ ≤ τ₀ →
      ∃ s r p n, LinearSystem.ofArrays A b τ = .ok s ∧ (ofSystem s).solve.1 = .ok r ∧
        r.parametrization = some p ∧ p.parameterCount = n ∧ A.toMatrix.rank + n = d ∧
        (∃ point : (Fin n → ℚ) → Fin d → ℚ,
          (∀ t, p.point (List.ofFn t) = .ok (Vec.column (point t) τ)) ∧
            Set.BijOn point Set.univ (solutionSet A b)) ∧
        ∃ v : Fin n → Fin d → ℚ,
          p.directions = List.ofFn (fun k => Vec.column (v k) τ) ∧ LinearIndependent ℚ v ∧
            Submodule.span ℚ (Set.range v) = LinearMap.ker A.toMatrix.mulVecLin := by
  have hd : 0 < d := by
    apply Nat.pos_of_ne_zero
    rintro rfl
    exact hmany.not_subsingleton Set.subsingleton_of_subsingleton
  apply exists_forall_of_eventually
  have hsmall : ∀ᶠ τ in 𝓝[>] (0 : ℚ), τ ∈ Set.Ioc (0 : ℚ) 1 := Ioc_mem_nhdsGT one_pos
  filter_upwards [hsmall, eventually_describes A b,
    Tableau.eventually_isReduced_gaussJordan ⟨A, b⟩,
    Tableau.eventually_solutions_gaussJordan ⟨A, b⟩] with τ hτ hdescribes hreduced hsolutions
  obtain ⟨hτ, hτ1⟩ := hτ
  have hsame : solutionSet A b = solutionSet (Tableau.gaussJordan τ ⟨A, b⟩).rows
      (Tableau.gaussJordan τ ⟨A, b⟩).offsets := by
    rw [← Tableau.solutions_mk, ← hsolutions]
    exact Tableau.solutions_mk _ _
  have hkind : (outcome τ ⟨A, b⟩).kind = .infinite := hdescribes.1.eq_iff.2.2.2 hmany
  have hrest := hreduced.nonempty_solutionSet_iff.1 (hsame ▸ hmany.nonempty)
  have hpivots := hreduced.pivots_eq hτ hτ1
  -- Both tables have the same solutions, so they share the null space as well.
  have hspan := hreduced.span_direction.trans (ker_eq_of_solutionSet_eq hsame hmany.nonempty).symm
  have hnullity : Module.finrank ℚ (LinearMap.ker A.toMatrix.mulVecLin) =
      (freeColumns (Sweep.pivots τ ⟨A, b⟩)).length := by
    rw [← hspan, finrank_span_eq_card linearIndependent_direction, Fintype.card_fin]
  refine ⟨_, _, _, _, LinearSystem.ofArrays_eq_ok hd A b hτ, solve_ofSystem hd hτ, if_pos hkind, ?_,
    hnullity ▸ rank_add_finrank_ker A, ⟨_, Parametrization.point_read hd hτ hpivots, ?_⟩,
    _, Parametrization.directions_read hpivots, linearIndependent_direction, hspan⟩
  · show (Parametrization.read τ _ _).directions.length = _
    rw [Parametrization.directions_read hpivots, List.length_ofFn]
  · rw [hsame]
    exact hreduced.bijOn_pointAt hrest

/-- One line in the plane: every small tolerance gives a parametrization that runs through it. -/
theorem parametrization_describes_line :
    ∃ τ₀ : ℚ, 0 < τ₀ ∧ ∀ τ, 0 < τ → τ ≤ τ₀ →
      ∃ s r p n, LinearSystem.ofArrays (Grid.ofFn ![![1, 1]]) (Vector.ofFn ![2]) τ = .ok s ∧
        (ofSystem s).solve.1 = .ok r ∧ r.parametrization = some p ∧ p.parameterCount = n ∧
        ∃ point : (Fin n → ℚ) → Fin 2 → ℚ,
          (∀ t, p.point (List.ofFn t) = .ok (Vec.column (point t) τ)) ∧
            Set.BijOn point Set.univ
              (solutionSet (Grid.ofFn ![![1, 1]]) (Vector.ofFn ![2])) := by
  have hrow (x : Fin 2 → ℚ) :
      (Grid.ofFn ![![1, 1]]).toMatrix.mulVec x = ![x 0 + x 1] := by
    funext i
    rw [Subsingleton.elim i 0]
    simp [Grid.toMatrix, Matrix.mulVec, dotProduct, Fin.sum_univ_two]
  have hmany : (solutionSet (Grid.ofFn ![![1, 1]]) (Vector.ofFn ![2])).Nontrivial := by
    refine ⟨![1, 1], ?_, ![0, 2], ?_, ?_⟩
    · exact (hrow _).trans (by decide +kernel)
    · exact (hrow _).trans (by decide +kernel)
    · intro heq
      exact one_ne_zero (congrFun heq 0)
  obtain ⟨τ₀, hτ₀, hsolve⟩ := parametrization_describes_solutions hmany
  refine ⟨τ₀, hτ₀, fun τ hτ hle => ?_⟩
  obtain ⟨s, r, p, n, hbuilt, hreport, hp, hn, -, hpoint, -⟩ := hsolve τ hτ hle
  exact ⟨s, r, p, n, hbuilt, hreport, hp, hn, hpoint⟩

end Elimination

end LinearSystems
