import Mathlib
import LinearSystems.Proofs.Elimination.ReducedForm
import LinearSystems.Proofs.Elimination.Solutions

/-!
# Small tolerances

A tolerance *resolves* a tableau if nothing in it but zero is below the tolerance or counts as a
small pivot.  Every tableau is resolved by all small tolerances, and two tolerances that resolve a
tableau do the same with it.  So from a fixed start each pass ends, for all small tolerances, in one
and the same tableau, and each tableau on the way is resolved.

A pass over resolved tableaux skips zeros only and sets zeros only to zero.  **Hence for all small
tolerances the two passes end in reduced row-echelon form and keep the row space**, and with it the
solutions (`Tableau.eventually_isReduced_gaussJordan`, `Tableau.eventually_rowSpace_gaussJordan`).
-/

namespace LinearSystems

open Filter Topology

variable {m d : Nat}

/-! ## Resolved numbers -/

namespace Tolerance

/-- The number is zero, or too large to be even a small pivot. -/
def Resolves (τ x : ℚ) : Prop := x = 0 ∨ nearZeroFactor * τ ≤ |x|

variable {τ x : ℚ}

theorem Resolves.zero : Resolves τ 0 :=
  Or.inl rfl

theorem nearZeroFactor_rat : (nearZeroFactor : ℚ) = 1000 := by
  norm_num [nearZeroFactor]

theorem Resolves.eq_zero_or_le (hτ : 0 < τ) (h : Resolves τ x) : x = 0 ∨ τ ≤ |x| := by
  rcases h with h | h
  · exact Or.inl h
  · rw [nearZeroFactor_rat] at h
    exact Or.inr (by linarith)

theorem Resolves.eq_zero_of_lt (hτ : 0 < τ) (h : Resolves τ x) (hx : |x| < τ) : x = 0 :=
  (h.eq_zero_or_le hτ).resolve_right (not_le.2 hx)

theorem Resolves.abs_lt_iff (hτ : 0 < τ) (h : Resolves τ x) : |x| < τ ↔ x = 0 := by
  constructor
  · exact h.eq_zero_of_lt hτ
  · intro hx
    rw [hx, abs_zero]
    exact hτ

theorem Resolves.isSignificant_eq (hτ : 0 < τ) (h : Resolves τ x) :
    Scalar.isSignificant τ x = !decide (x = 0) := by
  rw [Bool.eq_iff_iff, Scalar.isSignificant_rat_iff, ← not_lt, h.abs_lt_iff hτ]
  simp

theorem Resolves.isZero_eq (hτ : 0 < τ) (h : Resolves τ x) :
    Scalar.isZero x τ = decide (x = 0) := by
  rw [Bool.eq_iff_iff, Scalar.isZero_rat_iff, h.abs_lt_iff hτ, decide_eq_true_iff]

theorem eventually_resolves (x : ℚ) : ∀ᶠ τ in 𝓝[>] (0 : ℚ), Resolves τ x := by
  by_cases hx : x = 0
  · exact Eventually.of_forall fun _ => Or.inl hx
  · have hpos : 0 < |x| / 1000 := div_pos (abs_pos.2 hx) (by norm_num)
    filter_upwards [Ioc_mem_nhdsGT hpos] with τ hτ
    right
    have hle : τ ≤ |x| / 1000 := hτ.2
    rw [nearZeroFactor_rat]
    linarith

end Tolerance

/-! ## Resolved tableaux -/

/-- The tolerance resolves every entry and every offset. -/
structure Tableau.Resolved (τ : ℚ) (t : Tableau ℚ m d) : Prop where
  entry : ∀ i j, Tolerance.Resolves τ (t.entry i j)
  offset : ∀ i, Tolerance.Resolves τ (t.offset i)

namespace Tableau

theorem eventually_resolved (t : Tableau ℚ m d) : ∀ᶠ τ in 𝓝[>] (0 : ℚ), t.Resolved τ := by
  have hentries : ∀ᶠ τ in 𝓝[>] (0 : ℚ), ∀ i j, Tolerance.Resolves τ (t.entry i j) :=
    eventually_all.2 fun i => eventually_all.2 fun j => Tolerance.eventually_resolves _
  have hoffsets : ∀ᶠ τ in 𝓝[>] (0 : ℚ), ∀ i, Tolerance.Resolves τ (t.offset i) :=
    eventually_all.2 fun i => Tolerance.eventually_resolves _
  filter_upwards [hentries, hoffsets] with τ hentry hoffset
  exact ⟨hentry, hoffset⟩

variable {τ σ : ℚ} {t : Tableau ℚ m d}

theorem Resolved.clearBlock (h : t.Resolved τ) (row start stop : Nat) :
    (t.clearBlock row start stop).Resolved τ := by
  constructor
  · intro i j
    rw [entry_clearBlock]
    split
    · exact Tolerance.Resolves.zero
    · exact h.entry i j
  · intro i
    rw [offset_clearBlock]
    exact h.offset i

theorem Resolved.swap (h : t.Resolved τ) (a b : Fin m) : (t.swap a b).Resolved τ := by
  constructor
  · intro i j
    rw [entry_swap]
    exact h.entry _ j
  · intro i
    rw [offset_swap]
    exact h.offset _

/-- Cleaning a resolved tableau changes nothing. -/
theorem Resolved.clean_eq (hτ : 0 < τ) (h : t.Resolved τ) : t.clean τ = t := by
  apply ext_line
  intro i
  refine Prod.ext ?_ ?_
  · funext j
    show (t.clean τ).entry i j = t.entry i j
    rw [entry_clean, ite_eq_right_iff, Scalar.isSmall_rat_iff]
    exact fun hsmall => ((h.entry i j).eq_zero_of_lt hτ hsmall).symm
  · show (t.clean τ).offset i = t.offset i
    rw [offset_clean, ite_eq_right_iff, Scalar.isSmall_rat_iff]
    exact fun hsmall => ((h.offset i).eq_zero_of_lt hτ hsmall).symm

theorem Resolved.zeroOrSignificant (hτ : 0 < τ) (h : t.Resolved τ) : t.ZeroOrSignificant τ :=
  fun i j hsmall => (h.entry i j).eq_zero_of_lt hτ hsmall

/-! ### Two tolerances that resolve a tableau do the same with it -/

theorem Resolved.isSignificant_eq (hτ : 0 < τ) (hσ : 0 < σ) (h : t.Resolved τ) (h' : t.Resolved σ)
    (i : Fin m) (j : Fin d) :
    Scalar.isSignificant τ (t.entry i j) = Scalar.isSignificant σ (t.entry i j) := by
  rw [(h.entry i j).isSignificant_eq hτ, (h'.entry i j).isSignificant_eq hσ]

theorem Resolved.eliminate_eq (hτ : 0 < τ) (hσ : 0 < σ) (h : t.Resolved τ) (h' : t.Resolved σ)
    (c : Fin d) (source target : Fin m) :
    (t.line source).eliminate τ c (t.line target) =
      (t.line source).eliminate σ c (t.line target) := by
  have hskip : Line.isSkipped τ c (t.line source) (t.line target) =
      Line.isSkipped σ c (t.line source) (t.line target) := by
    simp only [Line.isSkipped, ← entry_eq_line, (h.entry _ c).isZero_eq hτ,
      (h'.entry _ c).isZero_eq hσ]
  rw [Line.eliminate, Line.eliminate, hskip]

theorem Resolved.eliminateBelow_eq (hτ : 0 < τ) (hσ : 0 < σ) (h : t.Resolved τ)
    (h' : t.Resolved σ) (row : Fin m) (column : Fin d) :
    t.eliminateBelow τ row column = t.eliminateBelow σ row column := by
  apply ext_line
  intro i
  rw [line_eliminateBelow, line_eliminateBelow, h.eliminate_eq hτ hσ h']

theorem Resolved.normalizeAt_eq (hτ : 0 < τ) (hσ : 0 < σ) (h : t.Resolved τ) (h' : t.Resolved σ)
    (p : Pivot m d) : t.normalizeAt τ p = t.normalizeAt σ p := by
  apply ext_line
  intro i
  rw [line_normalizeAt, line_normalizeAt, h.eliminate_eq hτ hσ h']

theorem Resolved.pivots_eq (hτ : 0 < τ) (hσ : 0 < σ) (h : t.Resolved τ) (h' : t.Resolved σ) :
    t.rows.pivots τ = t.rows.pivots σ :=
  Grid.pivotsFrom_congr (fun i _ j => h.isSignificant_eq hτ hσ h' i j) 0

end Tableau

namespace Sweep

variable {τ σ : ℚ} {s : Sweep ℚ m d} {i : Fin m}

/-- At a tolerance that resolves the tableau no pivot is noticed as small. -/
theorem not_isNear_of_resolved (hτ : 0 < τ) (h : s.tableau.Resolved τ) {p : Fin m} {c : Fin d}
    (hfound : s.tableau.findPivot τ i s.next = some (p, c)) :
    ¬ Scalar.abs (((s.tableau.clearBlock i s.next c).swap i p).entry i c) <
      Tolerance.nearZeroFactor * τ := by
  have hsig := (Tableau.findPivot_eq_some_iff.1 hfound).1.2.2
  have hne : s.tableau.entry p c ≠ 0 := by
    intro hzero
    rw [hzero, Scalar.isSignificant_rat_zero hτ] at hsig
    cases hsig
  rw [Tableau.entry_swap_clearBlock]
  exact not_lt.2 ((h.entry p c).resolve_left hne)

theorem step_eq_of_resolved (hτ : 0 < τ) (hσ : 0 < σ) (h : s.tableau.Resolved τ)
    (h' : s.tableau.Resolved σ) : s.step τ i = s.step σ i := by
  have hfind : s.tableau.findPivot τ i s.next = s.tableau.findPivot σ i s.next :=
    Tableau.findPivot_congr (h.isSignificant_eq hτ hσ h') i s.next
  cases hfound : s.tableau.findPivot σ i s.next with
  | none => rw [step_of_none (hfind.trans hfound), step_of_none hfound]
  | some q =>
      obtain ⟨p, c⟩ := q
      have hplaced := (h.clearBlock i s.next c).swap i p
      have hplaced' := (h'.clearBlock i s.next c).swap i p
      have hnear := not_isNear_of_resolved hτ h (hfind.trans hfound)
      have hnear' := not_isNear_of_resolved hσ h' hfound
      simp only [step, hfind.trans hfound, hfound, hplaced.eliminateBelow_eq hτ hσ hplaced',
        decide_eq_true_eq, hnear, hnear', if_false]

end Sweep

/-! ## Where the passes end -/

/-- What two tolerances do alike as soon as they are small has one outcome for all small ones. -/
theorem exists_eventually_eq {α : Type} {f : ℚ → α} {P : ℚ → Prop}
    (hP : ∀ᶠ τ in 𝓝[>] (0 : ℚ), P τ)
    (hf : ∀ τ σ, 0 < τ → 0 < σ → P τ → P σ → f τ = f σ) :
    ∃ a, ∀ᶠ τ in 𝓝[>] (0 : ℚ), f τ = a := by
  obtain ⟨σ, hPσ, hσ⟩ := (hP.and self_mem_nhdsWithin).exists
  refine ⟨f σ, ?_⟩
  filter_upwards [hP, self_mem_nhdsWithin] with τ hPτ hτ
  exact hf τ σ hτ hσ hPτ hPσ

theorem exists_eventually_foldl {α β : Type} {f : ℚ → α → β → α}
    (hstep : ∀ a b, ∃ a', ∀ᶠ τ in 𝓝[>] (0 : ℚ), f τ a b = a') (l : List β) (a : α) :
    ∃ a', ∀ᶠ τ in 𝓝[>] (0 : ℚ), l.foldl (f τ) a = a' := by
  induction l generalizing a with
  | nil => exact ⟨a, Eventually.of_forall fun _ => rfl⟩
  | cons b l ih =>
      obtain ⟨next, hnext⟩ := hstep a b
      obtain ⟨last, hlast⟩ := ih next
      refine ⟨last, ?_⟩
      filter_upwards [hnext, hlast] with τ hτ hrest
      rw [List.foldl_cons, hτ, hrest]

namespace Sweep

theorem exists_eventually_step (s : Sweep ℚ m d) (i : Fin m) :
    ∃ s', ∀ᶠ τ in 𝓝[>] (0 : ℚ), s.step τ i = s' :=
  exists_eventually_eq s.tableau.eventually_resolved fun _ _ hτ hσ => step_eq_of_resolved hτ hσ

/-- Every tableau that a pass over the listed rows starts a step from is resolved. -/
def Resolved (τ : ℚ) : List (Fin m) → Sweep ℚ m d → Prop
  | [], _ => True
  | i :: rows, s => s.tableau.Resolved τ ∧ Resolved τ rows (s.step τ i)

theorem eventually_resolved (rows : List (Fin m)) (s : Sweep ℚ m d) :
    ∀ᶠ τ in 𝓝[>] (0 : ℚ), Resolved τ rows s := by
  induction rows generalizing s with
  | nil => exact Eventually.of_forall fun _ => trivial
  | cons i rows ih =>
      obtain ⟨s', hs'⟩ := exists_eventually_step s i
      filter_upwards [s.tableau.eventually_resolved, hs', ih s'] with τ hresolved hstep hrest
      refine ⟨hresolved, ?_⟩
      rw [hstep]
      exact hrest

variable {τ : ℚ}

theorem rowSpace_foldl_step (hτ : 0 < τ) {rows : List (Fin m)} {s : Sweep ℚ m d}
    (h : Resolved τ rows s) :
    (rows.foldl (step τ) s).tableau.rowSpace = s.tableau.rowSpace := by
  induction rows generalizing s with
  | nil => rfl
  | cons i rows ih =>
      have hstep : (s.step τ i).tableau.rowSpace = s.tableau.rowSpace :=
        rowSpace_step hτ (h.1.zeroOrSignificant hτ)
      rw [List.foldl_cons, ih h.2, hstep]

/-- Elimination of a resolved column leaves nothing below the pivot. -/
theorem entry_step_eq_zero_of_resolved (hτ : 0 < τ) {s : Sweep ℚ m d}
    (h : s.tableau.Resolved τ) {i p : Fin m} {c : Fin d}
    (hfound : s.tableau.findPivot τ i s.next = some (p, c)) {r : Fin m} (hr : i < r) :
    (s.step τ i).tableau.entry r c = 0 := by
  have hsig := (Tableau.findPivot_eq_some_iff.1 hfound).1.2.2
  rw [Tableau.entry_eq_line, line_step_of_some hfound, if_pos hr]
  apply Line.eliminate_apply_eq_zero
  · rw [Line.clear_apply_of_le le_rfl]
    exact Scalar.isSignificant_rat_iff.1 hsig
  · rw [Line.clear_apply_of_le le_rfl]
    exact (h.entry _ c).eq_zero_or_le hτ

theorem residueFree_runFrom (hτ : 0 < τ) {k : Nat} (hk : k ≤ m) {s : Sweep ℚ m d}
    (h : Resolved τ (rowsFrom m k) s) :
    (runFrom τ k s).tableau.ResidueFree (pivotsFrom τ (rowsFrom m k) s) := by
  induction k, hk using rows_induction generalizing s with
  | done =>
      intro p hp
      rw [rowsFrom_self] at hp
      exact absurd hp List.not_mem_nil
  | row i ih =>
      intro p hp r hr
      rw [rowsFrom_fin] at h
      cases hfound : s.tableau.findPivot τ i s.next with
      | none =>
          rw [pivotsFrom_fin_of_none hfound] at hp
          exact absurd hp List.not_mem_nil
      | some q =>
          rw [pivotsFrom_fin_of_some hfound] at hp
          rw [runFrom_fin]
          rcases List.mem_cons.1 hp with rfl | hp
          · -- The step leaves its own column zero below the pivot, and later steps keep it so.
            refine entry_runFrom_eq_zero i.isLt (s.step τ i) ?_ r (Fin.lt_def.1 hr)
            intro r hr
            exact entry_step_eq_zero_of_resolved hτ h.1 hfound (Fin.lt_def.2 hr)
          · exact ih h.2 p hp r hr

end Sweep

namespace Tableau

theorem exists_eventually_backSubstitute (pivots : List (Pivot m d)) (t : Tableau ℚ m d) :
    ∃ u, ∀ᶠ τ in 𝓝[>] (0 : ℚ), t.backSubstitute τ pivots = u :=
  exists_eventually_foldl (fun t p => exists_eventually_eq t.eventually_resolved
    fun _ _ hτ hσ h h' => h.normalizeAt_eq hτ hσ h' p) pivots t

/-- For all small tolerances there is nothing left to clean. -/
theorem eventually_gaussJordan_eq (t : Tableau ℚ m d) : ∀ᶠ τ in 𝓝[>] (0 : ℚ),
    t.gaussJordan τ = (Sweep.run τ t).tableau.backSubstitute τ (Sweep.pivots τ t) := by
  obtain ⟨last, hlast⟩ : ∃ last, ∀ᶠ τ in 𝓝[>] (0 : ℚ), Sweep.run τ t = last :=
    exists_eventually_foldl Sweep.exists_eventually_step (List.finRange m) ⟨t, 0, []⟩
  obtain ⟨pivots, hpivots⟩ : ∃ pivots, ∀ᶠ τ in 𝓝[>] (0 : ℚ),
      last.tableau.rows.pivots τ = pivots :=
    exists_eventually_eq last.tableau.eventually_resolved fun _ _ hτ hσ h h' =>
      h.pivots_eq hτ hσ h'
  obtain ⟨reduced, hreduced⟩ := exists_eventually_backSubstitute pivots last.tableau
  filter_upwards [self_mem_nhdsWithin, hlast, hpivots, hreduced, reduced.eventually_resolved]
    with τ hτ hlast hpivots hreduced hresolved
  -- Read off the finished tableau, the pivots settle as soon as the tableau does.
  rw [gaussJordan, ← Sweep.pivots_run (Scalar.isSignificant_rat_zero hτ), hlast, hpivots, hreduced]
  exact hresolved.clean_eq hτ

/-- **For all small tolerances the two passes end in reduced row-echelon form.** -/
theorem eventually_isReduced_gaussJordan (t : Tableau ℚ m d) : ∀ᶠ τ in 𝓝[>] (0 : ℚ),
    (t.gaussJordan τ).rows.IsReduced (Sweep.pivots τ t) := by
  have hsmall : ∀ᶠ τ in 𝓝[>] (0 : ℚ), τ ∈ Set.Ioc (0 : ℚ) 1 := Ioc_mem_nhdsGT one_pos
  filter_upwards [hsmall, Sweep.eventually_resolved (rowsFrom m 0) ⟨t, 0, []⟩] with τ hτ hresolved
  apply isReduced_gaussJordan hτ.1 hτ.2
  rw [Sweep.run_eq_runFrom]
  exact Sweep.residueFree_runFrom hτ.1 (Nat.zero_le m) hresolved

/-- **For all small tolerances the two passes keep the row space.** -/
theorem eventually_rowSpace_gaussJordan (t : Tableau ℚ m d) : ∀ᶠ τ in 𝓝[>] (0 : ℚ),
    (t.gaussJordan τ).rowSpace = t.rowSpace := by
  filter_upwards [self_mem_nhdsWithin, t.eventually_gaussJordan_eq,
    Sweep.eventually_resolved (List.finRange m) ⟨t, 0, []⟩] with τ hτ hclean hresolved
  rw [hclean, rowSpace_backSubstitute hτ (Sweep.pairwise_fst_pivots hτ t)
    fun p hp => Sweep.le_abs_of_mem_pivots hτ t hp]
  exact Sweep.rowSpace_foldl_step hτ hresolved

/-- For all small tolerances the two passes keep the solutions. -/
theorem eventually_solutions_gaussJordan (t : Tableau ℚ m d) : ∀ᶠ τ in 𝓝[>] (0 : ℚ),
    (t.gaussJordan τ).solutions = t.solutions := by
  filter_upwards [t.eventually_rowSpace_gaussJordan] with τ hspace
  exact solutions_eq_of_rowSpace_eq hspace

end Tableau

end LinearSystems
