import Mathlib
import LinearSystems.Proofs.Answers
import LinearSystems.Proofs.Elimination.ReducedSystem
import LinearSystems.Proofs.FloatingPoint
import LinearSystems.Solution

/-!
# The pivots, read twice

The report lists the pivots as the reduced pass met them.  The parametrization reads them once more
off the rows of the report, which have been scaled and cleaned since.  Nothing below the staircase
is significant outside the pivot columns, so the second reading misses a pivot or finds the same:
**both agree exactly if every reported pivot still is significant**, and then the free variables,
the number of parameters and the solution agree as well (`Elimination.rescan_agrees_iff`).

A pivot can be lost.  Above tolerance one the cleaning takes the ones of the pivots away, and
residue that comes up from below can cancel a pivot at any tolerance
(`Elimination.rescan_loses_pivots`).
-/

namespace LinearSystems

variable {K : Type} [Scalar K] {m d : Nat}

namespace Parametrization

variable {τ : K} {g : Grid K m d} {b : Vector K m} {q : Parametrization K}

/-- With a pivot in every column the parametrization is a point. -/
theorem ofReduced_of_freeColumns_eq_nil (hfree : freeColumns (g.pivots τ) = []) {x : Vec K}
    (hx : Vec.ofComponents (pivotPoint (g.pivots τ) b) τ = .ok x) :
    ofReduced g b τ = .ok ⟨d, x, [], []⟩ := by
  simp only [ofReduced, hfree, hx, List.mapM_nil]
  rfl

end Parametrization

theorem Tableau.le_of_classify_eq_unique {τ : K} {t : Tableau K m d} {n : Nat}
    (h : t.classify τ n = .unique) : d ≤ n := by
  unfold classify at h
  split at h
  · cases h
  · split at h
    · cases h
    · next hfull => exact not_lt.1 hfull

namespace Elimination

/-- **When every reader of the report sees its pivots.**  A rescan of the reported rows finds the
reported pivots exactly if each of them is significant there.  Then the parametrization has the free
variables of the solution and as many parameters as there are columns without a pivot; and where
the solution is unique, the parametrization of the reported system is that point. -/
theorem rescan_agrees_iff [LawfulVanishing K] {s : LinearSystem K} (hτ : 0 < s.tolerance)
    {r : Report K s.equationCount s.dimensions} (hsolve : (ofSystem s).solve.1 = .ok r) :
    (r.rows.pivots s.tolerance = r.pivots ↔
      ∀ p ∈ r.pivots, Scalar.isSignificant s.tolerance (r.rows.entry p.1 p.2) = true) ∧
    (r.rows.pivots s.tolerance = r.pivots →
      (r.kind = .infinite → ∃ q, r.parametrization = some q ∧
        q.freeVariables = (⟨s, r⟩ : Solution K).freeVariables.map (fun n : Nat => (n : Int)) ∧
        (q.parameterCount : Int) = (⟨s, r⟩ : Solution K).info.freeCount ∧
        (⟨s, r⟩ : Solution K).info.freeCount = s.dimensions - r.rank) ∧
      (r.kind = .unique → ∃ q, Parametrization.ofReduced r.rows r.offsets s.tolerance = .ok q ∧
        r.solution = some q.basePoint ∧ q.directions = [])) := by
  obtain ⟨hkind, hrows, hoffsets, hpivots, -, hsolution, hparametrization⟩ :=
    concludes_of_solve_eq_ok hτ hsolve
  have hstairs : IsStaircase r.pivots := hpivots ▸ Sweep.isStaircase_pivots hτ _
  have hclear : r.rows.IsClearBelow s.tolerance r.pivots := by
    rw [hrows, hpivots]
    exact Tableau.isClearBelow_gaussJordan hτ _
  have hcolumns := hstairs.length_add_length_freeColumns
  refine ⟨hstairs.pivots_eq_iff hclear, fun hrescan => ⟨fun hinfinite => ?_, fun hunique => ?_⟩⟩
  · obtain ⟨q, hq, hreported⟩ := hparametrization hinfinite
    change Parametrization.ofReduced (Tableau.rows _) _ s.tolerance = _ at hq
    rw [← hrows, ← hoffsets] at hq
    obtain ⟨-, -, hlength, hfree⟩ := Parametrization.columns_of_ofReduced_eq_ok hq
    rw [hrescan] at hfree
    refine ⟨q, hreported, ?_, ?_, rfl⟩
    · rw [hfree, Solution.freeVariables, List.map_map]
      rfl
    · have hcount : q.parameterCount = (freeColumns r.pivots).length := by
        rw [Parametrization.parameterCount, hlength, hfree, List.length_map]
      show (q.parameterCount : Int) = s.dimensions - r.pivots.length
      omega
  · obtain ⟨x, hx, hreported⟩ := hsolution hunique
    have hfull : s.dimensions ≤ r.pivots.length := by
      rw [hpivots]
      exact Tableau.le_of_classify_eq_unique (hkind.symm.trans hunique)
    have hnone : freeColumns (r.rows.pivots s.tolerance) = [] := by
      rw [hrescan]
      exact List.length_eq_zero_iff.1 (by omega)
    have hpoint : Vec.ofComponents (pivotPoint (r.rows.pivots s.tolerance) r.offsets)
        s.tolerance = .ok x := by
      rw [hrescan, hpivots, hoffsets]
      exact hx
    exact ⟨_, Parametrization.ofReduced_of_freeColumns_eq_nil hnone hpoint, hreported, rfl⟩

/-- In binary floating point: at tolerance `2` the one of the pivot is cleaned away, so what was
solved as a point reads as a line.  At tolerance `1/8` the residue `1/16` cancels the first
pivot. -/
theorem rescan_loses_pivots :
    (∃ s, LinearSystem.ofArrays (Grid.ofFn ![![4]]) (Vector.ofFn ![4]) (2 : Float) = .ok s ∧
      ∃ r, (ofSystem s).solve.1 = .ok r ∧ r.kind = .unique ∧
        r.pivots.map (fun p => (p.1.val, p.2.val)) = [(0, 0)] ∧ r.rows.pivots 2 = [] ∧
        (Parametrization.ofReduced r.rows r.offsets 2).toOption.map
          (fun q => q.directions.map Vec.toList) = some [[1]]) ∧
    ∃ s, LinearSystem.ofArrays (Grid.ofFn ![![1, 16], ![0.0625, 1]]) (Vector.ofFn ![16, 1])
        (0.125 : Float) = .ok s ∧
      ∃ r, (ofSystem s).solve.1 = .ok r ∧ r.kind = .unique ∧
        r.pivots.map (fun p => (p.1.val, p.2.val)) = [(0, 0), (1, 1)] ∧
        (r.rows.pivots 0.125).map (fun p => (p.1.val, p.2.val)) = [(1, 1)] := by
  constructor
  · refine ⟨_, rfl, ?_⟩
    exact exists_solve_eq_ok (K := Float) (m := 1) (d := 1)
      (e := ⟨⟨Grid.ofFn ![![4]], Vector.ofFn ![4]⟩, 2, [], none⟩) (by decide +kernel)
  · refine ⟨_, rfl, ?_⟩
    exact exists_solve_eq_ok (K := Float) (m := 2) (d := 2)
      (e := ⟨⟨Grid.ofFn ![![1, 16], ![0.0625, 1]], Vector.ofFn ![16, 1]⟩, 0.125, [], none⟩)
      (by decide +kernel)

/-- One line in the plane, in binary floating point: both readings find the same pivot. -/
theorem rescan_agrees_on_line :
    ∃ s, LinearSystem.ofArrays (Grid.ofFn ![![2, 1]]) (Vector.ofFn ![3]) (0.125 : Float) = .ok s ∧
      ∃ r, (ofSystem s).solve.1 = .ok r ∧ r.rows.pivots 0.125 = r.pivots ∧
        ∃ q, r.parametrization = some q ∧ q.freeVariables = [2] ∧ (q.parameterCount : Int) = 1 := by
  refine ⟨⟨1, 2, Grid.ofFn ![![2, 1]], Vector.ofFn ![3], 0.125,
    [⟨⟨2, #v[2, 1], .column, 0.125⟩, 3, .general⟩]⟩, rfl, ?_⟩
  obtain ⟨r, hsolve, hkind, hsignificant, hfree, hcount⟩ := exists_solve_eq_ok
    (e := ofSystem (⟨1, 2, Grid.ofFn ![![2, 1]], Vector.ofFn ![3], 0.125,
      [⟨⟨2, #v[2, 1], .column, 0.125⟩, 3, .general⟩]⟩ : LinearSystem Float))
    (P := fun r => r.kind = .infinite ∧
      (∀ p ∈ r.pivots, Scalar.isSignificant 0.125 (r.rows.entry p.1 p.2) = true) ∧
      (freeColumns r.pivots).map (fun j => j.val + 1) = [2] ∧ r.pivots.length = 1)
    (by decide +kernel)
  obtain ⟨hiff, hreaders⟩ := rescan_agrees_iff (by decide) hsolve
  have hrescan := hiff.2 hsignificant
  obtain ⟨q, hq, hvariables, hparameters, hfreeCount⟩ := (hreaders hrescan).1 hkind
  refine ⟨r, hsolve, hrescan, q, hq, ?_, ?_⟩
  · rw [hvariables, Solution.freeVariables, hfree]
    rfl
  · rw [hparameters, hfreeCount, Report.rank, hcount]
    rfl

end Elimination

end LinearSystems
