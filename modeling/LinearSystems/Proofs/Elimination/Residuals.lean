import Mathlib
import LinearSystems.Proofs.Elimination.Residue
import LinearSystems.Proofs.Elimination.Verdict

/-!
# Residuals of the reported point

Read backwards, elimination keeps the residuals of a point: a line that had a multiple of the pivot
line added is as far from holding as before, if the pivot line holds at the point, and clearing a
column does nothing to a point that is zero there.  So a point at which the pivot lines hold in the
end, and that is zero in the free columns, leaves each equation of the system the residual that it
leaves some line of the last tableau (`Tableau.exists_residual_eq_uncleaned`).

If the last step finds every pivot column a unit column, the point that stands beside the pivots
then satisfies the system within its tolerance.  The last step cleans the offsets too, and what is
reported is this point with its small coordinates set to zero.  **The reported point satisfies the
system whenever nothing was lost that way**, and else the loss bounds the residuals
(`Elimination.reported_point_satisfies`).  A lost coordinate can matter, and so can a skipped entry
(`Elimination.not_satisfied_by_reported_solution`).
-/

namespace LinearSystems

variable {m d : Nat}

/-! ## Residuals of lines -/

namespace Line

variable {τ : ℚ} {x : Fin d → ℚ} {c : Fin d}

theorem residual_clear {start stop : Nat} (hx : ∀ j : Fin d, start ≤ j → j < stop → x j = 0)
    (l : Line ℚ d) : residual x (l.clear start stop) = residual x l := by
  have hterm (j : Fin d) : (l.clear start stop).1 j * x j = l.1 j * x j := by
    show (if start ≤ j ∧ j < stop then 0 else l.1 j) * x j = _
    split
    · next hj => rw [hx j hj.1 hj.2, mul_zero, mul_zero]
    · rfl
  rw [residual_apply, residual_apply, dotProduct, dotProduct,
    Finset.sum_congr rfl fun j _ => hterm j]
  rfl

theorem residual_eliminate (hτ : 0 < τ) {source : Line ℚ d} (hsource : residual x source = 0)
    (target : Line ℚ d) : residual x (eliminate τ c source target) = residual x target := by
  rw [eliminate_eq_add hτ, map_add, map_smul, hsource, smul_zero, add_zero]

theorem residual_normalize_eq_zero_iff {l : Line ℚ d} (hl : l.1 c ≠ 0) :
    residual x (normalize c l) = 0 ↔ residual x l = 0 := by
  rw [normalize_eq_smul hl, map_smul, smul_eq_zero]
  exact or_iff_right (one_div_ne_zero hl)

end Line

/-! ## Residuals through the passes -/

namespace Tableau

variable {τ : ℚ} {x : Fin d → ℚ}

theorem residual_normalizeAt (hτ : 0 < τ) {t : Tableau ℚ m d} {p : Pivot m d}
    (hpivot : τ ≤ |t.entry p.1 p.2|) (hx : Line.residual x ((t.normalizeAt τ p).line p.1) = 0)
    (i : Fin m) :
    Line.residual x ((t.normalizeAt τ p).line i) = Line.residual x (t.line i) := by
  have hne : (t.line p.1).1 p.2 ≠ 0 := abs_pos.1 (hτ.trans_le hpivot)
  have hsource : Line.residual x (t.line p.1) = 0 := by
    rwa [line_normalizeAt, if_neg (lt_irrefl p.1), if_pos rfl,
      Line.residual_normalize_eq_zero_iff hne] at hx
  by_cases hi : i = p.1
  · rw [hi, hx, hsource]
  · rw [line_normalizeAt, if_neg hi]
    split
    · exact Line.residual_eliminate hτ hsource _
    · rfl

/-- The reduced pass keeps the residuals of a point at which its pivot lines hold in the end. -/
theorem residual_backSubstitute (hτ : 0 < τ) {pivots : List (Pivot m d)}
    (hrows : pivots.Pairwise fun p q => p.1 < q.1) {t : Tableau ℚ m d}
    (hpivots : ∀ p ∈ pivots, τ ≤ |t.entry p.1 p.2|)
    (hx : ∀ p ∈ pivots, Line.residual x ((t.backSubstitute τ pivots).line p.1) = 0) (i : Fin m) :
    Line.residual x ((t.backSubstitute τ pivots).line i) = Line.residual x (t.line i) := by
  induction pivots generalizing t i with
  | nil => rfl
  | cons p pivots ih =>
      obtain ⟨hp, hrows⟩ := List.pairwise_cons.1 hrows
      have htail : ∀ q ∈ pivots, τ ≤ |(t.normalizeAt τ p).entry q.1 q.2| := by
        intro q hq
        rw [entry_normalizeAt_of_lt τ t p (hp q hq)]
        exact hpivots q (List.mem_cons_of_mem p hq)
      have hrest := ih hrows htail fun q hq => hx q (List.mem_cons_of_mem p hq)
      have hself : Line.residual x ((t.normalizeAt τ p).line p.1) = 0 :=
        (hrest p.1).symm.trans (hx p List.mem_cons_self)
      exact (hrest i).trans (residual_normalizeAt hτ (hpivots p List.mem_cons_self) hself i)

end Tableau

namespace Sweep

variable {τ : ℚ} {s : Sweep ℚ m d} {i : Fin m} {x : Fin d → ℚ}

theorem residual_step (hτ : 0 < τ) {p : Fin m} {c : Fin d}
    (hfound : s.tableau.findPivot τ i s.next = some (p, c))
    (hskipped : ∀ j : Fin d, s.next ≤ j → j < c.val → x j = 0)
    (hx : Line.residual x ((s.step τ i).tableau.line i) = 0) (r : Fin m) :
    Line.residual x ((s.step τ i).tableau.line r) =
      Line.residual x (s.tableau.line (Tableau.exchange i p r)) := by
  have hplaced (r : Fin m) : Line.residual x (((s.tableau.clearBlock i s.next c).swap i p).line r) =
      Line.residual x (s.tableau.line (Tableau.exchange i p r)) := by
    rw [Tableau.line_swap, Tableau.line_clearBlock]
    split
    · exact Line.residual_clear hskipped _
    · rfl
  rw [tableau_step_of_some hfound, Tableau.line_eliminateBelow, if_neg (lt_irrefl i)] at hx
  rw [tableau_step_of_some hfound, Tableau.line_eliminateBelow, ← hplaced]
  split
  · exact Line.residual_eliminate hτ hx _
  · rfl

/-- Each residual of the start is a residual of the end, at a point where the pivot lines hold in
the end and that is zero in the columns without a pivot. -/
theorem exists_residual_eq_runFrom (hτ : 0 < τ) {k : Nat} (hk : k ≤ m) (s : Sweep ℚ m d)
    (hfree : ∀ j : Fin d, s.next ≤ j → j ∉ (pivotsFrom τ (rowsFrom m k) s).map Prod.snd → x j = 0)
    (hx : ∀ p ∈ pivotsFrom τ (rowsFrom m k) s,
      Line.residual x ((runFrom τ k s).tableau.line p.1) = 0) (r : Fin m) :
    ∃ r', Line.residual x (s.tableau.line r) =
      Line.residual x ((runFrom τ k s).tableau.line r') := by
  induction k, hk using rows_induction generalizing s r with
  | done => exact ⟨r, by rw [runFrom_self]⟩
  | row i ih =>
      cases hfound : s.tableau.findPivot τ i s.next with
      | none =>
          rw [pivotsFrom_fin_of_none hfound] at hfree
          refine ⟨r, ?_⟩
          rw [line_runFrom_of_none hfound]
          split
          · exact (Line.residual_clear (fun j hj _ => hfree j hj List.not_mem_nil) _).symm
          · rfl
      | some q =>
          obtain ⟨p, c⟩ := q
          have hnext := next_step_of_some hfound
          have hcolumns (q : Pivot m d) (hq : q ∈ pivotsFrom τ (rowsFrom m (i + 1)) (s.step τ i)) :
              c < q.2 := by
            rw [← grid_pivotsFrom_runFrom (Scalar.isSignificant_rat_zero hτ) i.isLt] at hq
            have hle := Grid.le_snd_of_mem_pivotsFrom hq
            rwa [hnext] at hle
          rw [pivotsFrom_fin_of_some hfound] at hfree hx
          -- The columns that are cleared on the way get no pivot later: the point is zero there.
          have hskipped (j : Fin d) (hj : s.next ≤ j) (hjc : j < c.val) : x j = 0 := by
            apply hfree j hj
            rw [List.map_cons, List.mem_cons, not_or]
            refine ⟨(Fin.lt_def.2 hjc).ne, fun hmem => ?_⟩
            obtain ⟨q, hq, rfl⟩ := List.mem_map.1 hmem
            exact lt_asymm (Fin.lt_def.2 hjc) (hcolumns q hq)
          have hfree' (j : Fin d) (hj : (s.step τ i).next ≤ j)
              (hmem : j ∉ (pivotsFrom τ (rowsFrom m (i + 1)) (s.step τ i)).map Prod.snd) :
              x j = 0 := by
            rw [hnext] at hj
            have hle := (Tableau.findPivot_eq_some_iff.1 hfound).1.1
            apply hfree j (hle.trans (Nat.le_of_succ_le hj))
            rw [List.map_cons, List.mem_cons, not_or]
            exact ⟨(Fin.lt_def.2 hj).ne', hmem⟩
          have hpivot : Line.residual x ((s.step τ i).tableau.line i) = 0 := by
            have hlast := hx (i, c) List.mem_cons_self
            rwa [runFrom_fin, line_runFrom_of_lt i.isLt (Nat.lt_succ_self i)] at hlast
          rw [runFrom_fin] at hx ⊢
          obtain ⟨r', hr'⟩ := ih (s.step τ i) hfree'
            (fun q hq => hx q (List.mem_cons_of_mem _ hq)) (Tableau.exchange i p r)
          -- Undoing the step only puts the two exchanged rows back.
          refine ⟨r', ?_⟩
          rw [← hr', residual_step hτ hfound hskipped hpivot, Tableau.exchange_exchange]

end Sweep

/-! ## Before the last step -/

namespace Tableau

variable {τ : ℚ} {x : Fin d → ℚ}

/-- What both passes make of the tableau before the last step cleans it. -/
def uncleaned (τ : ℚ) (t : Tableau ℚ m d) : Tableau ℚ m d :=
  (Sweep.run τ t).tableau.backSubstitute τ (Sweep.pivots τ t)

theorem gaussJordan_eq_clean_uncleaned (τ : ℚ) (t : Tableau ℚ m d) :
    t.gaussJordan τ = (t.uncleaned τ).clean τ :=
  rfl

/-- **Each residual of the system is a residual of the eliminated system**, at a point where the
pivot lines hold and that is zero in the free columns. -/
theorem exists_residual_eq_uncleaned (hτ : 0 < τ) (t : Tableau ℚ m d)
    (hfree : ∀ j, j ∉ (Sweep.pivots τ t).map Prod.snd → x j = 0)
    (hx : ∀ p ∈ Sweep.pivots τ t, Line.residual x ((t.uncleaned τ).line p.1) = 0) (i : Fin m) :
    ∃ i', Line.residual x (t.line i) = Line.residual x ((t.uncleaned τ).line i') := by
  have hback (i : Fin m) : Line.residual x ((t.uncleaned τ).line i) =
      Line.residual x ((Sweep.run τ t).tableau.line i) :=
    residual_backSubstitute hτ (Sweep.pairwise_fst_pivots hτ t)
      (fun p hp => Sweep.le_abs_of_mem_pivots hτ t hp) hx i
  have hrun (p : Pivot m d) (hp : p ∈ Sweep.pivots τ t) :
      Line.residual x ((Sweep.runFrom τ 0 ⟨t, 0, []⟩).tableau.line p.1) = 0 := by
    rw [← Sweep.run_eq_runFrom, ← hback]
    exact hx p hp
  obtain ⟨i', hi'⟩ := Sweep.exists_residual_eq_runFrom hτ (Nat.zero_le m) ⟨t, 0, []⟩
    (fun j _ => hfree j) hrun i
  refine ⟨i', hi'.trans ?_⟩
  rw [hback, Sweep.run_eq_runFrom]

/-- The listed pivots are one, and the rest of their columns is zero. -/
def HasUnitColumns (pivots : List (Pivot m d)) (t : Tableau ℚ m d) : Prop :=
  ∀ p ∈ pivots, ∀ i, t.entry i p.2 = if i = p.1 then 1 else 0

variable {pivots : List (Pivot m d)}

/-- The pivot point meets a line only in the columns that have their pivot there. -/
theorem HasUnitColumns.entry_mul_pivotPoint {t : Tableau ℚ m d} (h : t.HasUnitColumns pivots)
    {i : Fin m} {j : Fin d} (hij : ∀ p ∈ pivots, p.2 = j → i ≠ p.1) :
    t.entry i j * (pivotPoint pivots t.offsets).get j = 0 := by
  by_cases hcolumn : j ∈ pivots.map Prod.snd
  · obtain ⟨p, hp, rfl⟩ := List.mem_map.1 hcolumn
    rw [h p hp, if_neg (hij p hp rfl), zero_mul]
  · rw [get_pivotPoint_of_notMem hcolumn, mul_zero]

/-- At the pivot point the line of a pivot holds. -/
theorem HasUnitColumns.residual_of_mem {t : Tableau ℚ m d} (h : t.HasUnitColumns pivots)
    (hstairs : IsStaircase pivots) {p : Pivot m d} (hp : p ∈ pivots) :
    Line.residual (pivotPoint pivots t.offsets).get (t.line p.1) = 0 := by
  have hother (j : Fin d) (hj : j ≠ p.2) :
      t.entry p.1 j * (pivotPoint pivots t.offsets).get j = 0 := by
    apply h.entry_mul_pivotPoint
    rintro q hq rfl
    exact hstairs.fst_ne_of_ne hp hq fun heq => hj (congrArg Prod.snd heq.symm)
  rw [Line.residual_apply, sub_eq_zero]
  calc (t.line p.1).1 ⬝ᵥ (pivotPoint pivots t.offsets).get
      = t.entry p.1 p.2 * (pivotPoint pivots t.offsets).get p.2 := Fintype.sum_eq_single p.2 hother
    _ = t.offset p.1 := by
        rw [h p hp, if_pos rfl, one_mul, get_pivotPoint_of_mem hstairs hp]
        rfl

/-- A line without a pivot is off by its offset at the pivot point. -/
theorem HasUnitColumns.residual_of_length_le {t : Tableau ℚ m d} (h : t.HasUnitColumns pivots)
    (hstairs : IsStaircase pivots) {i : Fin m} (hi : pivots.length ≤ i) :
    Line.residual (pivotPoint pivots t.offsets).get (t.line i) = -t.offset i := by
  have hzero : (t.line i).1 ⬝ᵥ (pivotPoint pivots t.offsets).get = 0 := by
    apply Finset.sum_eq_zero
    intro j _
    apply h.entry_mul_pivotPoint
    rintro p hp - rfl
    exact absurd (hstairs.lt_length hp) (not_lt.2 hi)
  rw [Line.residual_apply, hzero, zero_sub]
  rfl

/-- Unit columns are settled. -/
theorem HasUnitColumns.settled (hτ : 0 < τ) {t : Tableau ℚ m d} (h : t.HasUnitColumns pivots) :
    Settled τ pivots t := by
  intro p hp
  refine ⟨by rw [h p hp, if_pos rfl], fun i hi => ?_⟩
  rw [h p hp, if_neg hi, abs_zero]
  exact hτ

variable {t : Tableau ℚ m d}

theorem isReduced_of_hasUnitColumns (hτ : 0 < τ) (hτ1 : τ ≤ 1)
    (h : (t.uncleaned τ).HasUnitColumns (Sweep.pivots τ t)) :
    (t.gaussJordan τ).rows.IsReduced (Sweep.pivots τ t) := by
  apply (isReduced_clean_iff hτ hτ1 (Sweep.isStaircase_pivots hτ t) _).2 (h.settled hτ)
  exact fun i j => entry_backSubstitute_run_eq_zero t

theorem isConsistent_of_classify_ne {k : Nat} (h : t.classify τ k ≠ .inconsistent) :
    t.isConsistent τ = true := by
  rw [← Bool.not_eq_false]
  intro hfalse
  apply h
  rw [classify, hfalse]
  rfl

/-- The point that stands beside the pivots before the last step cleans the tableau. -/
def uncleanedPoint (τ : ℚ) (t : Tableau ℚ m d) : Fin d → ℚ :=
  (pivotPoint (Sweep.pivots τ t) (t.uncleaned τ).offsets).get

/-- In a consistent system this point satisfies every equation within the tolerance. -/
theorem abs_residual_uncleanedPoint_lt (hτ : 0 < τ) (hτ1 : τ ≤ 1)
    (h : (t.uncleaned τ).HasUnitColumns (Sweep.pivots τ t))
    (hconsistent : (t.gaussJordan τ).isConsistent τ = true) (i : Fin m) :
    |Line.residual (t.uncleanedPoint τ) (t.line i)| < τ := by
  have hstairs : IsStaircase (Sweep.pivots τ t) := Sweep.isStaircase_pivots hτ t
  have hreduced := isReduced_of_hasUnitColumns hτ hτ1 h
  obtain ⟨i', hi'⟩ := exists_residual_eq_uncleaned hτ t
    (fun j hj => get_pivotPoint_of_notMem hj) (fun p hp => h.residual_of_mem hstairs hp) i
  rw [uncleanedPoint, hi']
  rcases lt_or_ge i'.val (Sweep.pivots τ t).length with hlt | hge
  · obtain ⟨p, hp, rfl⟩ := hstairs.exists_of_lt hlt
    rw [h.residual_of_mem hstairs hp, abs_zero]
    exact hτ
  · -- The verdict needs every offset beside a zero row to be below the tolerance.
    have hcleaned : (t.gaussJordan τ).offset i' = 0 :=
      (isConsistent_gaussJordan_iff hτ hreduced).1 hconsistent i' hge
    rw [h.residual_of_length_le hstairs hge, abs_neg, ← not_le, ← le_abs_offset_clean_iff hτ,
      ← gaussJordan_eq_clean_uncleaned, hcleaned, abs_zero]
    exact not_le.2 hτ

end Tableau

/-! ## Small coordinates -/

/-- The point with its coordinates below the tolerance set to zero. -/
def truncate (τ : ℚ) (x : Fin d → ℚ) : Fin d → ℚ := fun j => if |x j| < τ then 0 else x j

theorem truncate_eq_self {τ : ℚ} {x : Fin d → ℚ} (h : ∀ j, |x j| < τ → x j = 0) :
    truncate τ x = x := by
  funext j
  rw [truncate, ite_eq_right_iff]
  exact fun hj => (h j hj).symm

theorem abs_truncate_sub_le {τ : ℚ} {x : Fin d → ℚ} {j : Fin d} (h : truncate τ x j ≠ x j) :
    |truncate τ x j - x j| ≤ τ := by
  rw [truncate] at h ⊢
  split at h
  · next hsmall =>
      rw [if_pos hsmall, zero_sub, abs_neg]
      exact hsmall.le
  · exact absurd rfl h

/-- What the lost coordinates add to the residual of a line is bounded by their coefficients. -/
theorem Line.abs_residual_truncate_le (τ : ℚ) (x : Fin d → ℚ) (l : Line ℚ d) :
    |residual (truncate τ x) l| ≤ |residual x l| + τ * ∑ j with truncate τ x j ≠ x j, |l.1 j| := by
  have hsplit : residual (truncate τ x) l = residual x l + l.1 ⬝ᵥ (truncate τ x - x) := by
    rw [residual_apply, residual_apply, dotProduct_sub]
    ring
  have hterm (j : Fin d) : |l.1 j * (truncate τ x - x) j| ≤
      if truncate τ x j ≠ x j then τ * |l.1 j| else 0 := by
    rw [abs_mul, Pi.sub_apply]
    split
    · next hlost =>
        rw [mul_comm]
        exact mul_le_mul_of_nonneg_right (abs_truncate_sub_le hlost) (abs_nonneg _)
    · next hkept =>
        rw [not_ne_iff.1 hkept, sub_self, abs_zero, mul_zero]
  calc |residual (truncate τ x) l|
      ≤ |residual x l| + |l.1 ⬝ᵥ (truncate τ x - x)| := by
        rw [hsplit]
        exact abs_add_le _ _
    _ ≤ |residual x l| + ∑ j, |l.1 j * (truncate τ x - x) j| := by
        gcongr
        exact Finset.abs_sum_le_sum_abs _ _
    _ ≤ |residual x l| + ∑ j, if truncate τ x j ≠ x j then τ * |l.1 j| else 0 := by
        gcongr with j
        exact hterm j
    _ = |residual x l| + τ * ∑ j with truncate τ x j ≠ x j, |l.1 j| := by
        rw [Finset.mul_sum, Finset.sum_filter]

/-- Cleaning the offsets truncates the pivot point. -/
theorem Tableau.get_pivotPoint_clean (τ : ℚ) (t : Tableau ℚ m d) (pivots : List (Pivot m d)) :
    (pivotPoint pivots (t.clean τ).offsets).get = truncate τ (pivotPoint pivots t.offsets).get := by
  funext j
  rw [truncate, get_pivotPoint, get_pivotPoint]
  cases pivotRow? pivots j with
  | none => exact (ite_self 0).symm
  | some i =>
      show (t.clean τ).offset i = if |t.offset i| < τ then 0 else t.offset i
      rw [offset_clean]
      exact if_congr Scalar.isSmall_rat_iff rfl rfl

/-! ## The reported point -/

/-- A point satisfies a system when every residual is below the tolerance. -/
theorem LinearSystem.isSatisfiedBy_column (s : LinearSystem ℚ) (x : Fin s.dimensions → ℚ) (τ : ℚ) :
    s.isSatisfiedBy (Vec.column x τ).components = .ok (decide (∀ i,
      |Line.residual x (Tableau.line ⟨s.coefficients, s.offsets⟩ i)| < s.tolerance)) := by
  have hget (j : Fin s.dimensions) : (Vector.ofFn x).get j = x j := Vector.getElem_ofFn j.isLt
  have hresiduals : s.residuals (Vector.ofFn x) = .ok (Vector.ofFn fun i =>
      Line.residual x (Tableau.line ⟨s.coefficients, s.offsets⟩ i)) := by
    rw [residuals, dif_pos rfl]
    simp only [sumOfProducts_rat, Fin.cast_refl, id_eq, hget]
    rfl
  show s.isSatisfiedBy (Vector.ofFn x) = _
  rw [isSatisfiedBy, hresiduals]
  refine congrArg Except.ok (Bool.eq_iff_iff.2 ?_)
  rw [Vector.all_eq_true, decide_eq_true_iff]
  simp only [Vector.getElem_ofFn, Scalar.isSmall_rat_iff]
  exact ⟨fun h i => h i i.isLt, fun h i hi => h ⟨i, hi⟩⟩

theorem LinearSystem.isSatisfiedBy_column_iff {s : LinearSystem ℚ} {x : Fin s.dimensions → ℚ}
    {τ : ℚ} : s.isSatisfiedBy (Vec.column x τ).components = .ok true ↔
      ∀ i, |Line.residual x (Tableau.line ⟨s.coefficients, s.offsets⟩ i)| < s.tolerance := by
  rw [isSatisfiedBy_column, Except.ok.injEq, decide_eq_true_iff]

/-- The point that a report on a consistent system names: the solution, or the base point. -/
def Report.point? {K : Type} (r : Report K m d) : Option (Vec K) :=
  match r.kind with
  | .inconsistent => none
  | .unique => r.solution
  | .infinite => r.parametrization.map Parametrization.basePoint

namespace Elimination

theorem point?_outcome {τ : ℚ} (hτ : 0 < τ) (hτ1 : τ ≤ 1) {t : Tableau ℚ m d}
    (h : (t.gaussJordan τ).rows.IsReduced (Sweep.pivots τ t))
    (hkind : (outcome τ t).kind ≠ .inconsistent) :
    (outcome τ t).point? =
      some (Vec.column (pivotPoint (Sweep.pivots τ t) (t.gaussJordan τ).offsets).get τ) := by
  cases hcase : (outcome τ t).kind with
  | inconsistent => exact absurd hcase hkind
  | unique =>
      rw [Report.point?, hcase]
      exact if_pos hcase
  | infinite =>
      have hread : (outcome τ t).parametrization =
          some (.read τ (t.gaussJordan τ).rows (t.gaussJordan τ).offsets) := if_pos hcase
      rw [Report.point?, hcase, hread]
      show some (Vec.column (pivotPoint ((t.gaussJordan τ).rows.pivots τ) _).get τ) = _
      rw [h.pivots_eq hτ hτ1]

/-- **How far the reported point is from solving the system.**  Let the passes make every pivot
column a unit column before the last step cleans the tableau.  Then the point that stands there
satisfies a consistent system within its tolerance, and the reported point is this point without its
small coordinates.  If none is lost, the reported point satisfies the system, and in any case the
coefficients of the lost ones bound how far it is off. -/
theorem reported_point_satisfies {s : LinearSystem ℚ} (hd : 0 < s.dimensions)
    (hτ : 0 < s.tolerance) (hτ1 : s.tolerance ≤ 1)
    (hunit : (Tableau.uncleaned s.tolerance ⟨s.coefficients, s.offsets⟩).HasUnitColumns
      (Sweep.pivots s.tolerance ⟨s.coefficients, s.offsets⟩)) :
    ∃ r, (ofSystem s).solve.1 = .ok r ∧ (r.kind ≠ .inconsistent →
      ∃ x v : Fin s.dimensions → ℚ,
        x = Tableau.uncleanedPoint s.tolerance ⟨s.coefficients, s.offsets⟩ ∧
        s.isSatisfiedBy (Vec.column x s.tolerance).components = .ok true ∧
        r.point? = some (Vec.column v s.tolerance) ∧ v = truncate s.tolerance x ∧
        ((∀ j, |x j| < s.tolerance → x j = 0) →
          s.isSatisfiedBy (Vec.column v s.tolerance).components = .ok true) ∧
        ∀ i, |Line.residual v (Tableau.line ⟨s.coefficients, s.offsets⟩ i)| <
          s.tolerance * (1 + ∑ j with v j ≠ x j, |s.coefficients.entry i j|)) := by
  refine ⟨_, solve_ofSystem hd hτ, fun hkind => ?_⟩
  have hreduced := Tableau.isReduced_of_hasUnitColumns hτ hτ1 hunit
  have hwithin := Tableau.abs_residual_uncleanedPoint_lt hτ hτ1 hunit
    (Tableau.isConsistent_of_classify_ne hkind)
  have hpoint := point?_outcome hτ hτ1 hreduced hkind
  rw [Tableau.gaussJordan_eq_clean_uncleaned, Tableau.get_pivotPoint_clean] at hpoint
  refine ⟨_, _, rfl, LinearSystem.isSatisfiedBy_column_iff.2 hwithin, hpoint, rfl, ?_, ?_⟩
  · intro hkept
    rw [LinearSystem.isSatisfiedBy_column_iff, ← Tableau.uncleanedPoint, truncate_eq_self hkept]
    exact hwithin
  · intro i
    rw [mul_one_add]
    exact (Line.abs_residual_truncate_le _ _ _).trans_lt (add_lt_add_left (hwithin i) _)

/-- Two equations that contradict each other by less than the tolerance: the base point satisfies
both within the tolerance. -/
theorem reported_point_of_close_lines :
    ∃ s, LinearSystem.ofArrays (Grid.ofFn ![![1, 0], ![1, 0]]) (Vector.ofFn ![1, 17 / 16])
        (1 / 8 : ℚ) = .ok s ∧
      ∃ r v, (ofSystem s).solve.1 = .ok r ∧ r.kind = .infinite ∧ r.point? = some v ∧
        v.toList = [1, 0] ∧ s.isSatisfiedBy v.components = .ok true := by
  have hτ : (0 : ℚ) < 1 / 8 := by norm_num
  have hτ1 : (1 / 8 : ℚ) ≤ 1 := by norm_num
  have hunit : (Tableau.uncleaned (1 / 8) ⟨Grid.ofFn ![![1, 0], ![1, 0]],
      Vector.ofFn ![1, 17 / 16]⟩).HasUnitColumns (Sweep.pivots (1 / 8 : ℚ)
        ⟨Grid.ofFn ![![1, 0], ![1, 0]], Vector.ofFn ![1, 17 / 16]⟩) := by
    unfold Tableau.HasUnitColumns
    decide +kernel
  refine ⟨_, LinearSystem.ofArrays_eq_ok (by decide) _ _ hτ, ?_⟩
  obtain ⟨r, hsolve, hpoint⟩ := reported_point_satisfies (s := ⟨2, 2,
    Grid.ofFn ![![1, 0], ![1, 0]], Vector.ofFn ![1, 17 / 16], 1 / 8,
    (List.finRange 2).map fun i => ⟨Vec.column ((Grid.ofFn ![![1, 0], ![1, 0]]).row i).get (1 / 8),
      (Vector.ofFn ![1, 17 / 16]).get i, .general⟩⟩) Nat.two_pos hτ hτ1 hunit
  have hreport := hsolve
  rw [solve_ofSystem Nat.two_pos hτ] at hreport
  obtain rfl := Except.ok.inj hreport
  have hkind : (outcome (1 / 8) ⟨Grid.ofFn ![![1, 0], ![1, 0]], Vector.ofFn ![1, 17 / 16]⟩).kind =
      .infinite := by decide +kernel
  obtain ⟨_, _, rfl, -, hnamed, rfl, hkept, -⟩ := hpoint (by rw [hkind]; nofun)
  exact ⟨_, _, hsolve, hkind, hnamed, by decide +kernel, hkept (by decide +kernel)⟩

/-- At tolerance `1/8` the solution `1/16` of one equation is lost, and with it the equation.  The
entry `1/16` above a pivot is skipped, and the coordinate beside it multiplies it up. -/
theorem not_satisfied_by_reported_solution :
    (∃ s, LinearSystem.ofArrays (Grid.ofFn ![![16]]) (Vector.ofFn ![1]) (1 / 8 : ℚ) = .ok s ∧
      ∃ r v, (ofSystem s).solve.1 = .ok r ∧ r.kind = .unique ∧ r.solution = some v ∧
        v.toList = [0] ∧ s.isSatisfiedBy v.components = .ok false) ∧
    ∃ s, LinearSystem.ofArrays (Grid.ofFn ![![1, 1 / 16], ![0, 1]]) (Vector.ofFn ![0, 16])
        (1 / 8 : ℚ) = .ok s ∧
      ∃ r v, (ofSystem s).solve.1 = .ok r ∧ r.kind = .unique ∧ r.solution = some v ∧
        v.toList = [0, 16] ∧ s.isSatisfiedBy v.components = .ok false := by
  have hτ : (0 : ℚ) < 1 / 8 := by norm_num
  constructor
  · refine ⟨_, LinearSystem.ofArrays_eq_ok (by decide) _ _ hτ, _, _, solve_ofSystem (by decide) hτ,
      by decide +kernel, if_pos (by decide +kernel), by decide +kernel, ?_⟩
    rw [LinearSystem.isSatisfiedBy_column, decide_eq_false (by decide +kernel)]
  · refine ⟨_, LinearSystem.ofArrays_eq_ok (by decide) _ _ hτ, _, _, solve_ofSystem (by decide) hτ,
      by decide +kernel, if_pos (by decide +kernel), by decide +kernel, ?_⟩
    rw [LinearSystem.isSatisfiedBy_column, decide_eq_false (by decide +kernel)]

end Elimination

end LinearSystems
