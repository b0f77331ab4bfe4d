import Mathlib
import LinearSystems.Proofs.Answers
import LinearSystems.Proofs.Elimination.Triangular
import LinearSystems.Proofs.Exact

/-!
# The two passes in closed form

The reduced pass meets the pivots of the tableau that it starts from, so it is a fold over that list
(`Tableau.reduce_eq_ok`), and it succeeds whenever no significant value reads as zero.  What a solve
answers is then decided by the classification alone (`Elimination.solve_ofSystem_eq_conclude`).  In
exact arithmetic this makes the whole solve a total function of the system:
`Elimination.solve_ofSystem` names the report.
-/

namespace LinearSystems

variable {K : Type} {m d : Nat}

namespace Tableau

section AnyScalar

variable [Scalar K] {τ : K}

/-- The tableau after the listed pivots of the reduced pass, before anything is cleaned. -/
def backSubstitute (τ : K) (pivots : List (Pivot m d)) (t : Tableau K m d) : Tableau K m d :=
  pivots.foldl (normalizeAt τ) t

theorem rows_eq_of_reduceAt_eq_ok {t u : Tableau K m d} {p : Pivot m d}
    (h : t.reduceAt τ p = .ok u) {i : Fin m} (hi : p.1 < i) :
    u.rows.entry i = t.rows.entry i := by
  cases hzero : Scalar.isZero (t.entry p.1 p.2) τ with
  | false =>
      rw [reduceAt_eq_ok hzero] at h
      obtain rfl := Except.ok.inj h
      exact funext fun j => entry_normalizeAt_of_lt τ t p hi j
  | true =>
      have hpivot : (t.eliminateAbove τ p.1 p.2).entry p.1 p.2 = t.entry p.1 p.2 := by
        rw [entry_eq_line, line_eliminateAbove, if_neg (lt_irrefl p.1), ← entry_eq_line]
      rw [reduceAt, scalePivotToOne] at h
      simp [hpivot, hzero] at h

theorem foldlM_reduceAt_eq_ok {pivots : List (Pivot m d)}
    (hrows : pivots.Pairwise fun p q => p.1 < q.1) {t : Tableau K m d}
    (hpivots : ∀ p ∈ pivots, Scalar.isZero (t.entry p.1 p.2) τ = false) :
    pivots.foldlM (reduceAt τ) t = .ok (t.backSubstitute τ pivots) := by
  induction pivots generalizing t with
  | nil => rfl
  | cons p pivots ih =>
      obtain ⟨hp, hrows⟩ := List.pairwise_cons.1 hrows
      have htail : ∀ q ∈ pivots,
          Scalar.isZero ((t.normalizeAt τ p).entry q.1 q.2) τ = false := by
        intro q hq
        rw [entry_normalizeAt_of_lt τ t p (hp q hq)]
        exact hpivots q (List.mem_cons_of_mem p hq)
      rw [List.foldlM_cons, reduceAt_eq_ok (hpivots p List.mem_cons_self)]
      exact ih hrows htail

/-- The reduced pass runs through the pivots of the tableau it is given. -/
theorem reduce_eq_ok
    (hsignificant : ∀ x : K, Scalar.isSignificant τ x = true → Scalar.isZero x τ = false)
    (t : Tableau K m d) :
    t.reduce τ =
      .ok ((t.backSubstitute τ (t.rows.pivots τ)).clean τ, t.rows.pivots τ) := by
  have hscan := Grid.scan_eq_foldlM τ Tableau.rows (reduceAt τ)
    (fun _ _ _ h _ hi => rows_eq_of_reduceAt_eq_ok h hi) (List.pairwise_lt_finRange m) 0 t
  have hfold : (t.rows.pivots τ).foldlM (reduceAt τ) t =
      .ok (t.backSubstitute τ (t.rows.pivots τ)) :=
    foldlM_reduceAt_eq_ok ((Grid.pairwise_pivots τ t.rows).imp And.left)
      fun p hp => hsignificant _ (Grid.isSignificant_of_mem_pivots hp)
  change _ = (do
    let last ← (t.rows.pivots τ).foldlM (reduceAt τ) t
    return (last, t.rows.pivots τ)) at hscan
  rw [hfold] at hscan
  rw [reduce, hscan]
  rfl

/-- Both passes: triangular form, reduced form, and what is left below the tolerance set to zero. -/
def gaussJordan (τ : K) (t : Tableau K m d) : Tableau K m d :=
  ((Sweep.run τ t).tableau.backSubstitute τ (Sweep.pivots τ t)).clean τ

theorem reduce_run_eq_ok [LawfulZeroTest K] (hτ : 0 < τ) (t : Tableau K m d) :
    (Sweep.run τ t).tableau.reduce τ = .ok (t.gaussJordan τ, Sweep.pivots τ t) := by
  rw [reduce_eq_ok fun _ => LawfulZeroTest.isZero_of_isSignificant,
    Sweep.pivots_run (LawfulZeroTest.isSignificant_zero hτ), gaussJordan]

end AnyScalar

theorem uniqueSolution_eq_ok {τ : ℚ} (hd : 0 < d) (hτ : 0 < τ) (t : Tableau ℚ m d)
    (pivots : List (Pivot m d)) :
    t.uniqueSolution τ pivots = .ok (Vec.column (pivotPoint pivots t.offsets).get τ) :=
  Vec.ofComponents_eq_ok hd _ hτ

end Tableau

/-- The parametrization that an exact reading of a reduced table gives. -/
def Parametrization.read (τ : ℚ) (g : Grid ℚ m d) (b : Vector ℚ m) : Parametrization ℚ :=
  ⟨d, Vec.column (pivotPoint (g.pivots τ) b).get τ,
    (freeColumns (g.pivots τ)).map fun j =>
      Vec.column (freeDirection (g.pivots τ) g j).get τ,
    (freeColumns (g.pivots τ)).map fun j : Fin d => (j.val : Int) + 1⟩

theorem Parametrization.ofReduced_eq_ok {τ : ℚ} (hd : 0 < d) (hτ : 0 < τ) (g : Grid ℚ m d)
    (b : Vector ℚ m) : ofReduced g b τ = .ok (read τ g b) := by
  have hdirection : (fun j => Vec.ofComponents (freeDirection (g.pivots τ) g j) τ) =
      fun j => pure (Vec.column (freeDirection (g.pivots τ) g j).get τ) :=
    funext fun j => Vec.ofComponents_eq_ok hd _ hτ
  have hdirections : (freeColumns (g.pivots τ)).mapM
        (fun j => Vec.ofComponents (freeDirection (g.pivots τ) g j) τ) =
      .ok ((freeColumns (g.pivots τ)).map fun j =>
        Vec.column (freeDirection (g.pivots τ) g j).get τ) := by
    rw [hdirection, List.mapM_pure]
    rfl
  have hbase : Vec.ofComponents (pivotPoint (g.pivots τ) b) τ =
      .ok (Vec.column (pivotPoint (g.pivots τ) b).get τ) :=
    Vec.ofComponents_eq_ok hd _ hτ
  simp only [ofReduced, hdirections, hbase, ofParts, List.length_map, if_true, bind, Except.bind,
    read]

namespace Elimination

section AnyScalar

variable [Scalar K]

/-- The elimination of the tableau `t` once both passes are through. -/
def afterPasses (τ : K) (t : Tableau K m d) : Elimination K m d :=
  ⟨t.gaussJordan τ, τ, (Sweep.run τ t).smallPivots, none⟩

/-- Both passes always get through. -/
theorem reduced_triangular_ofSystem [LawfulZeroTest K] {s : LinearSystem K}
    (hτ : 0 < s.tolerance) :
    (ofSystem s).triangular.reduced =
      .ok (afterPasses s.tolerance ⟨s.coefficients, s.offsets⟩,
        Sweep.pivots s.tolerance ⟨s.coefficients, s.offsets⟩) := by
  have h := Tableau.reduce_run_eq_ok hτ ⟨s.coefficients, s.offsets⟩
  simp only [reduced, triangular, ofSystem, h, List.nil_append]
  rfl

/-- Only the answer on the reduced system can fail. -/
theorem solve_ofSystem_eq_conclude [LawfulZeroTest K] {s : LinearSystem K}
    (hτ : 0 < s.tolerance) :
    (ofSystem s).solve.1 = (afterPasses s.tolerance ⟨s.coefficients, s.offsets⟩).conclude
      (Sweep.pivots s.tolerance ⟨s.coefficients, s.offsets⟩) := by
  have hnone : (ofSystem s).report = none := rfl
  simp only [solve, hnone, reduced_triangular_ofSystem hτ]
  cases (afterPasses s.tolerance ⟨s.coefficients, s.offsets⟩).conclude
    (Sweep.pivots s.tolerance ⟨s.coefficients, s.offsets⟩) <;> rfl

/-- A report that a computation finds, with a property that it checks. -/
theorem exists_solve_eq_ok {e : Elimination K m d} {P : Report K m d → Prop} [DecidablePred P]
    (h : e.solve.1.toOption.any (fun r => decide (P r)) = true) :
    ∃ r, e.solve.1 = .ok r ∧ P r :=
  exists_eq_ok_of_any h

/-- What a report says of the reduced tableau and its pivots. -/
structure Concludes (e : Elimination K m d) (found : List (Pivot m d)) (r : Report K m d) :
    Prop where
  kind : r.kind = e.tableau.classify e.tolerance found.length
  rows : r.rows = e.tableau.rows
  offsets : r.offsets = e.tableau.offsets
  pivots : r.pivots = found
  smallPivots : r.smallPivots = e.smallPivots
  solution : r.kind = .unique →
    ∃ x, e.tableau.uniqueSolution e.tolerance found = .ok x ∧ r.solution = some x
  parametrization : r.kind = .infinite →
    ∃ p, Parametrization.ofReduced e.tableau.rows e.tableau.offsets e.tolerance = .ok p ∧
      r.parametrization = some p

theorem concludes_of_eq_ok {e : Elimination K m d} {pivots : List (Pivot m d)} {r : Report K m d}
    (h : e.conclude pivots = .ok r) : e.Concludes pivots r := by
  rcases conclude_eq_ok_cases h with ⟨hkind, rfl⟩ | ⟨x, hkind, hx, rfl⟩ | ⟨q, hkind, hq, rfl⟩
  · exact ⟨hkind.symm, rfl, rfl, rfl, rfl, nofun, nofun⟩
  · exact ⟨hkind.symm, rfl, rfl, rfl, rfl, fun _ => ⟨x, hx, rfl⟩, nofun⟩
  · exact ⟨hkind.symm, rfl, rfl, rfl, rfl, nofun, fun _ => ⟨q, hq, rfl⟩⟩

/-- What the report of a solve says. -/
theorem concludes_of_solve_eq_ok [LawfulZeroTest K] {s : LinearSystem K} (hτ : 0 < s.tolerance)
    {r : Report K s.equationCount s.dimensions} (h : (ofSystem s).solve.1 = .ok r) :
    (afterPasses s.tolerance ⟨s.coefficients, s.offsets⟩).Concludes
      (Sweep.pivots s.tolerance ⟨s.coefficients, s.offsets⟩) r :=
  concludes_of_eq_ok ((solve_ofSystem_eq_conclude hτ).symm.trans h)

end AnyScalar

/-- The report of an exact elimination of the tableau `t`. -/
def outcome (τ : ℚ) (t : Tableau ℚ m d) : Report ℚ m d :=
  let reduced := t.gaussJordan τ
  let pivots := Sweep.pivots τ t
  let kind := reduced.classify τ pivots.length
  ⟨kind, reduced.rows, reduced.offsets, pivots,
    if kind = .unique then some (Vec.column (pivotPoint pivots reduced.offsets).get τ) else none,
    if kind = .infinite then some (.read τ reduced.rows reduced.offsets) else none,
    (Sweep.run τ t).smallPivots⟩

/-- Every exact system with an unknown and a positive tolerance is solved. -/
theorem solve_ofSystem {s : LinearSystem ℚ} (hd : 0 < s.dimensions) (hτ : 0 < s.tolerance) :
    (ofSystem s).solve.1 = .ok (outcome s.tolerance ⟨s.coefficients, s.offsets⟩) := by
  rw [solve_ofSystem_eq_conclude hτ]
  simp only [conclude, afterPasses, outcome]
  cases (Tableau.gaussJordan s.tolerance ⟨s.coefficients, s.offsets⟩).classify s.tolerance
      (Sweep.pivots s.tolerance ⟨s.coefficients, s.offsets⟩).length with
  | inconsistent => rfl
  | unique =>
      rw [Tableau.uniqueSolution_eq_ok hd hτ]
      rfl
  | infinite =>
      rw [Parametrization.ofReduced_eq_ok hd hτ]
      rfl

end Elimination

end LinearSystems
